import StageRelay.Http.Client
import StageRelay.Proofs.Run.Composition
import StageRelay.Proofs.Services.Validation

/-!
# A validating stage at the front

A stage that posts the payload to the validation service can stand guard over a queue: its table
goes on at the status of a payload that passes and ends the run at the status of one that does
not. A payload that passes gets an empty answer, which does not replace it. So the rest of the
queue runs as it would without the guard, on the payload as it was sent. A payload that does not
pass gets the failure in words, and no further stage is called.
-/

namespace StageRelay

namespace Invoker.Steady

variable {settings : PipelineSettings} {invoke : Invoker} {v : Visit}

theorem reaction_eq (h : invoke.Steady) (v : Visit) : v.reaction invoke = invoke [v.call] :=
  h.by_call v.call v.session.calls

theorem cancelAtMs_eq (h : invoke.Steady) (v : Visit) :
    v.cancelAtMs invoke = v.session.cancelAtMs := by
  rw [Visit.cancelAtMs, h.reaction_eq, h.not_cancels]
  rfl

/-- The session after a call that is awaited to its answer. -/
theorem after_eq (h : invoke.Steady) (hv : v.session.cancelAtMs = none) :
    v.after invoke =
      ⟨v.call :: v.session.calls, v.session.nowMs + (invoke [v.call]).durationMs, none⟩ := by
  rw [Visit.after, Visit.leave, Visit.answerMs, Visit.durationMs, h.reaction_eq,
    h.cancelAtMs_eq, hv]

/-- The record of such a call. -/
theorem record_eq (h : invoke.Steady) (v : Visit) (d : Directive) (a : Answer) :
    v.record invoke d a =
      ⟨v.stage.name, a.status, d, a.hasBody, (invoke [v.call]).durationMs⟩ := by
  rw [Visit.record, Visit.durationMs, h.reaction_eq]

/-- Without limits and without a cancellation every call is awaited to its answer. -/
theorem inTime (h : invoke.Steady) (hsettings : settings.Timeless)
    (htimeout : settings.stageTimeout = none) (hv : v.session.cancelAtMs = none) :
    v.InTime settings invoke := by
  have hdeadline : settings.deadlineMs = none := hsettings
  refine ⟨⟨Session.isCancelled_of_none hv, ?_⟩, ?_, ?_⟩
  · intro d hd
    rw [hdeadline] at hd
    cases hd
  · intro l hl
    rw [PipelineSettings.limit?, htimeout, hdeadline] at hl
    cases hl
  · intro c hc
    rw [h.cancelAtMs_eq, hv] at hc
    cases hc

end Invoker.Steady

/-- The stage posts payloads to a service that validates what it is sent. Its table goes on
behind payloads that pass and ends the run at those that do not. -/
structure Stage.Guards (gate : Stage) (invoke : Invoker) (explain : ByteArray → String)
    (rules : SortedMap String Rule) : Prop where
  posts : gate.service.method = .post
  /-- What the service answers depends on the body of the request that the call becomes. -/
  validates : ∀ call : Call, call.service = gate.service → (invoke [call]).result =
    .ok (Validation.handle explain rules (call.httpRequest.body.getD .empty))
  forwards : gate.routing.resolve Validation.passStatus = some .forward
  terminates : gate.routing.resolve Validation.failStatus = some .terminate

section

variable {settings : PipelineSettings} {invoke : Invoker} {gate : Stage} {s : Session}
variable {explain : ByteArray → String} {rules : SortedMap String Rule} {payload : ByteArray}

namespace Stage.Guards

/-- The service gets the payload as it is. -/
theorem result (h : gate.Guards invoke explain rules) (hsteady : invoke.Steady) (startMs : Nat)
    (payload : ByteArray) (s : Session) :
    ((gate.visit startMs payload s).reaction invoke).result =
      .ok (Validation.handle explain rules payload) := by
  rw [hsteady.reaction_eq, h.validates _ rfl, Call.httpRequest]
  simp only [Stage.visit, Visit.call, h.posts]
  rfl

/-- A payload that passes is let through as it is. -/
theorem forwards_of_pass (h : gate.Guards invoke explain rules) (hsteady : invoke.Steady)
    {startMs : Nat} (htime : (gate.visit startMs payload s).InTime settings invoke)
    (hpass : Validation.validate explain rules payload = .ok ()) :
    (gate.visit startMs payload s).Directs settings invoke .forward
      ⟨Validation.passStatus, .empty⟩ := by
  refine ⟨htime, ?_, h.forwards⟩
  rw [h.result hsteady, Validation.handle_of_pass hpass]

/-- A payload that does not pass ends the run. -/
theorem terminates_of_fail (h : gate.Guards invoke explain rules) (hsteady : invoke.Steady)
    {startMs : Nat} (htime : (gate.visit startMs payload s).InTime settings invoke)
    {failure : ValidationFailure}
    (hfail : Validation.validate explain rules payload = .error failure) :
    (gate.visit startMs payload s).Directs settings invoke .terminate
      (Validation.handle explain rules payload) := by
  refine ⟨htime, h.result hsteady _ _ _, ?_⟩
  rw [(Validation.handle_of_fail hfail).1]
  exact h.terminates

end Stage.Guards

namespace Pipeline

theorem allForward_of_pass (hgate : gate.Guards invoke explain rules) (hsteady : invoke.Steady)
    (hsettings : settings.Timeless) (htimeout : settings.stageTimeout = none)
    (hs : s.cancelAtMs = none) (hpass : Validation.validate explain rules payload = .ok ()) :
    AllForward settings invoke (visits invoke s.nowMs [gate] payload s)
      [⟨Validation.passStatus, .empty⟩] :=
  .cons (hgate.forwards_of_pass hsteady (hsteady.inTime hsettings htimeout hs) hpass) .nil

/-- The run of a guard alone on a payload that passes. -/
theorem execute_guard_of_pass (hgate : gate.Guards invoke explain rules)
    (hsteady : invoke.Steady) (hsettings : settings.Timeless)
    (htimeout : settings.stageTimeout = none) (hs : s.cancelAtMs = none) (route : String)
    (hpass : Validation.validate explain rules payload = .ok ()) :
    execute settings invoke route [gate] payload s =
      (.ok ⟨route, .completed payload 204,
        [⟨gate.name, 204, .forward, false, (invoke [⟨gate.service, payload⟩]).durationMs⟩]⟩,
        ⟨⟨gate.service, payload⟩ :: s.calls,
          s.nowMs + (invoke [⟨gate.service, payload⟩]).durationMs, none⟩) := by
  have hafter := hsteady.after_eq (v := gate.visit s.nowMs payload s) hs
  rw [execute_of_allForward (allForward_of_pass hgate hsteady hsettings htimeout hs hpass),
    visits_cons, visits_nil, forwardRecords, List.zipWith_cons_cons, List.zipWith_nil_left,
    hsteady.record_eq]
  show (_, (gate.visit s.nowMs payload s).after invoke) = _
  rw [hafter]
  rfl

/-- A guard in front of a queue, run with steady services and without limits or a cancellation.
A payload that does not pass is rejected there and no other stage is called. Behind a payload
that passes, the rest of the queue runs as it would alone, with that payload and with the record
of the guard in front. -/
theorem execute_guarded (hgate : gate.Guards invoke explain rules) (hsteady : invoke.Steady)
    (hsettings : settings.Timeless) (htimeout : settings.stageTimeout = none)
    (hs : s.cancelAtMs = none) (route : String) (rest : List Stage) (payload : ByteArray) :
    let call : Call := ⟨gate.service, payload⟩
    let ms := (invoke [call]).durationMs
    let after : Session := ⟨call :: s.calls, s.nowMs + ms, none⟩
    let alone := execute settings invoke route rest payload (.start none)
    (∀ failure, Validation.validate explain rules payload = .error failure →
      execute settings invoke route (gate :: rest) payload s =
        (.ok ⟨route, .rejected gate.name 412, [⟨gate.name, 412, .terminate, true, ms⟩]⟩,
          after)) ∧
    (Validation.validate explain rules payload = .ok () →
      execute settings invoke route (gate :: rest) payload s =
        (alone.1.map fun run =>
          ⟨route, if rest.isEmpty then .completed payload 204 else run.outcome,
            ⟨gate.name, 204, .forward, false, ms⟩ :: run.stages⟩,
          alone.2.behind after)) := by
  intro call ms after alone
  have htime : (gate.visit s.nowMs payload s).InTime settings invoke :=
    hsteady.inTime hsettings htimeout hs
  have hafter : (gate.visit s.nowMs payload s).after invoke = after := hsteady.after_eq hs
  refine ⟨?_, ?_⟩
  · intro failure hfail
    obtain ⟨hstatus, hbody⟩ := Validation.handle_of_fail hfail
    have hfirst : visits invoke s.nowMs (gate :: rest) payload s =
      [] ++ gate.visit s.nowMs payload s :: _ := rfl
    rw [execute_of_terminate hfirst .nil (hgate.terminates_of_fail hsteady htime hfail), hafter,
      hsteady.record_eq, hstatus, hbody]
    rfl
  · intro hpass
    have hall : AllForward settings invoke _ _ :=
      allForward_of_pass hgate hsteady hsettings htimeout hs hpass
    have hgateAlone : execute settings invoke route [gate] payload s =
        (.ok ⟨route, .completed payload 204, [⟨gate.name, 204, .forward, false, ms⟩]⟩, after) :=
      execute_guard_of_pass hgate hsteady hsettings htimeout hs route hpass
    have hunreplaced : latestBody payload [⟨Validation.passStatus, .empty⟩] = payload := rfl
    obtain ⟨hbehind, -⟩ :=
      hsteady.execute_behind (s := .start none) hsettings rfl after route rest payload
    rw [Session.start_behind rfl] at hbehind
    show execute settings invoke route ([gate] ++ rest) payload s = _
    rw [execute_append_of_allForward hsettings hall, hgateAlone, hunreplaced]
    simp only [Except.bind, Run.continued, hbehind]
    rfl

def oneName : SortedMap String Rule :=
  .ofList [("name", ⟨some [.string], some ⟨some 1, some 1⟩⟩)]

def noName : ByteArray := ⟨"\x7b\"name\":[]\x7d".toUTF8.data⟩

def nameless : ByteArray := ⟨"\x7b\x7d".toUTF8.data⟩

/-- A stage that asks for a validation and knows nothing but its two statuses. -/
def nameGate : Stage :=
  ⟨"gate", ⟨"http://gate", .post, .empty⟩, (RoutingTable.empty.on 204 .forward).on 412 .terminate⟩

/-- Services of which one validates and all others take what comes. -/
def gatedServices : Invoker
  | [] => ⟨.error (.transport "no call"), 0, false⟩
  | call :: _ =>
    if call.service = nameGate.service then
      ⟨.ok (Validation.handle (fun _ => "") oneName (call.httpRequest.body.getD .empty)), 1, false⟩
    else ⟨.ok ⟨200, .empty⟩, 2, false⟩

/-- No name fails the rule, and the stage behind the gate is not called. What has no property
`name` at all passes. -/
theorem execute_guarded_nameGate :
    let settings : PipelineSettings := ⟨none, none, 204⟩
    let run := fun payload => execute settings gatedServices "orders"
      [nameGate, passingStage "store"] payload (.start none)
    nameGate.Guards gatedServices (fun _ => "") oneName ∧ gatedServices.Steady ∧
      settings.Timeless ∧ settings.stageTimeout = none ∧
      run noName = (.ok ⟨"orders", .rejected "gate" 412, [⟨"gate", 412, .terminate, true, 1⟩]⟩,
        ⟨[⟨nameGate.service, noName⟩], 1, none⟩) ∧
      run nameless = (.ok ⟨"orders", .completed nameless 200,
        [⟨"gate", 204, .forward, false, 1⟩, ⟨"store", 200, .forward, false, 2⟩]⟩,
        ⟨[⟨default, nameless⟩, ⟨nameGate.service, nameless⟩], 3, none⟩) := by
  intro settings run
  have hgate : nameGate.Guards gatedServices (fun _ => "") oneName := by
    refine ⟨rfl, ?_, rfl, rfl⟩
    intro call hcall
    simp only [gatedServices, hcall, if_true]
  have hsteady : gatedServices.Steady := by
    refine ⟨fun _ _ => rfl, fun call => ?_⟩
    simp only [gatedServices]
    split <;> rfl
  have hsettings : settings.Timeless := rfl
  have htimeout : settings.stageTimeout = none := rfl
  obtain ⟨hfails, -⟩ := execute_guarded (s := .start none) hgate hsteady
    hsettings htimeout rfl "orders" [passingStage "store"] noName
  obtain ⟨-, hpasses⟩ := execute_guarded (s := .start none) hgate hsteady
    hsettings htimeout rfl "orders" [passingStage "store"] nameless
  have hnoName : Validation.validate (fun _ => "") oneName noName =
    .error (.cardinality "name" 0 ⟨some 1, some 1⟩) := by rfl
  have hnameless : Validation.validate (fun _ => "") oneName nameless = .ok () := by rfl
  exact ⟨hgate, hsteady, hsettings, htimeout, hfails _ hnoName, hpasses hnameless⟩

end Pipeline

end

end StageRelay
