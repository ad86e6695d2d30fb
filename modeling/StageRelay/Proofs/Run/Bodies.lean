import StageRelay.Gateway.Response
import StageRelay.Proofs.Run.Calls

/-!
# Bodies and the course of a run

The bodies that services answer have no say in what becomes of a run. Take two runs of
one queue, with any payloads, whose calls come to the same apart from the bodies. They
go in step: they meet each stage at the same time, make the same calls apart from the
payloads and end in the same way. What they report differs in the final payload and in
the marks of replaced payloads only, and an aborted or rejected request is answered
with the same response.

`Session.InStep` and `Visit.InStep` relate what the two runs meet, and
`runStages_inStep` carries the relation through a queue.
-/

namespace StageRelay

/-! ## What is left without bodies -/

def Reaction.withoutBody (r : Reaction (Except CallError Answer)) :
    Reaction (Except CallError Status) := r.map (Except.map Answer.status)

def StageRecord.withoutBody (r : StageRecord) : StageRecord := { r with payloadReplaced := false }

def Outcome.withoutBody : Outcome → Outcome
  | .completed _ status => .completed .empty status
  | .rejected extension stageStatus => .rejected extension stageStatus

/-- The report without all that bodies leave in it: the final payload, and in each record the mark
that the payload was replaced. -/
def Run.withoutBodies (r : Run) : Run :=
  ⟨r.route, r.outcome.withoutBody, r.stages.map StageRecord.withoutBody⟩

namespace Reaction

variable {r r' : Reaction (Except CallError Answer)}

theorem durationMs_of_withoutBody (h : r.withoutBody = r'.withoutBody) :
    r.durationMs = r'.durationMs := by
  show r.withoutBody.durationMs = r'.withoutBody.durationMs
  rw [h]

theorem cancels_of_withoutBody (h : r.withoutBody = r'.withoutBody) : r.cancels = r'.cancels := by
  show r.withoutBody.cancels = r'.withoutBody.cancels
  rw [h]

/-- With an answer on one side there is one on the other, with the same status. -/
theorem exists_answer_of_withoutBody {a : Answer} (h : r.withoutBody = r'.withoutBody)
    (ha : r.result = .ok a) : ∃ b, r'.result = .ok b ∧ b.status = a.status := by
  have hresult : r.result.map Answer.status = r'.result.map Answer.status :=
    congrArg Reaction.result h
  cases hb : r'.result with
  | error e => simp [ha, hb, Except.map] at hresult
  | ok b =>
      simp only [ha, hb, Except.map, Except.ok.injEq] at hresult
      exact ⟨b, rfl, hresult.symm⟩

/-- With an error on one side there is the same on the other. -/
theorem error_of_withoutBody {e : CallError} (h : r.withoutBody = r'.withoutBody)
    (he : r.result = .error e) : r'.result = .error e := by
  have hresult : r.result.map Answer.status = r'.result.map Answer.status :=
    congrArg Reaction.result h
  cases hb : r'.result with
  | error e' =>
      simp only [he, hb, Except.map, Except.error.injEq] at hresult
      rw [hresult]
  | ok b => simp [he, hb, Except.map] at hresult

end Reaction

/-- Without the final payload and the marks, a response about a rejection or an error is
still known. -/
theorem Response.ofResult_eq_of_withoutBodies {x y : Except PipelineError Run}
    (h : x.map Run.withoutBodies = y.map Run.withoutBodies)
    (hx : ∀ report, x = .ok report → report.outcome.isRejected = true) :
    ofResult x = ofResult y := by
  cases x with
  | error e =>
      cases y with
      | error e' =>
          obtain rfl : e = e' := by simpa [Except.map] using h
          rfl
      | ok report' => simp [Except.map] at h
  | ok report =>
      cases y with
      | error e' => simp [Except.map] at h
      | ok report' =>
          have hrejected := hx report rfl
          have houtcome : report.outcome.withoutBody = report'.outcome.withoutBody := by
            simp only [Except.map, Except.ok.injEq] at h
            exact congrArg Run.outcome h
          show ofOutcome report.outcome = ofOutcome report'.outcome
          cases ho : report.outcome with
          | completed payload status => simp [ho, Outcome.isRejected] at hrejected
          | rejected extension stageStatus =>
              cases ho' : report'.outcome with
              | completed payload status => simp [ho, ho', Outcome.withoutBody] at houtcome
              | rejected => rfl

/-! ## Two sessions and two visits in step -/

/-- Two sessions differ in the payloads of their calls at most. Services, times and the instant of
cancellation are the same. -/
structure Session.InStep (s t : Session) : Prop where
  services : s.calls.map Call.service = t.calls.map Call.service
  now : s.nowMs = t.nowMs
  cancelAt : s.cancelAtMs = t.cancelAtMs

theorem Session.InStep.refl (s : Session) : s.InStep s := ⟨rfl, rfl, rfl⟩

theorem Session.InStep.length_calls {s t : Session} (h : s.InStep t) :
    s.calls.length = t.calls.length := by
  simpa using congrArg List.length h.services

theorem Session.InStep.isCancelled {s t : Session} (h : s.InStep t) :
    s.isCancelled = t.isCancelled := by
  rw [Session.isCancelled, Session.isCancelled, h.now, h.cancelAt]

structure Visit.InStep (v w : Visit) : Prop where
  stage : v.stage = w.stage
  elapsed : v.elapsedMs = w.elapsedMs
  session : v.session.InStep w.session

theorem Stage.visit_inStep {s t : Session} (stage : Stage) (startMs : Nat)
    (payload payload' : ByteArray) (h : s.InStep t) :
    (stage.visit startMs payload s).InStep (stage.visit startMs payload' t) :=
  ⟨rfl, congrArg (· - startMs) h.now, h⟩

theorem Visit.durationMs_eq {invoke invoke' : Invoker} {v w : Visit}
    (hr : (v.reaction invoke).withoutBody = (w.reaction invoke').withoutBody) :
    v.durationMs invoke = w.durationMs invoke' :=
  Reaction.durationMs_of_withoutBody hr

namespace Visit.InStep

variable {settings : PipelineSettings} {invoke invoke' : Invoker} {v w : Visit}

theorem starts (h : v.InStep w) (hs : v.Starts settings) : w.Starts settings where
  not_cancelled := h.session.isCancelled.symm.trans hs.not_cancelled
  before_deadline d hd := by
    rw [← h.elapsed]
    exact hs.before_deadline d hd

variable (h : v.InStep w)
variable (hr : (v.reaction invoke).withoutBody = (w.reaction invoke').withoutBody)

include h hr

theorem cancelAtMs : v.cancelAtMs invoke = w.cancelAtMs invoke' := by
  rw [Visit.cancelAtMs, Visit.cancelAtMs, Reaction.cancels_of_withoutBody hr, h.session.now,
    h.session.cancelAt]

theorem endMs : v.endMs settings invoke = w.endMs settings invoke' := by
  rw [Visit.endMs, Visit.endMs, spanMs, spanMs, durationMs_eq hr, h.elapsed, h.session.now]

theorem leave (instant : Nat) : (v.leave invoke instant).InStep (w.leave invoke' instant) where
  services := by
    show v.stage.service :: _ = w.stage.service :: _
    rw [h.stage, h.session.services]
  now := rfl
  cancelAt := h.cancelAtMs hr

theorem after : (v.after invoke).InStep (w.after invoke') := by
  have hinstant : v.answerMs invoke = w.answerMs invoke' := by
    rw [answerMs, answerMs, durationMs_eq hr, h.session.now]
  rw [Visit.after, Visit.after, hinstant]
  exact h.leave hr _

theorem within (hw : v.WithinLimit settings invoke) : w.WithinLimit settings invoke' := by
  intro l hl
  rw [← h.elapsed] at hl
  rw [← durationMs_eq hr]
  exact hw l hl

theorem not_within (hw : ¬ v.WithinLimit settings invoke) : ¬ w.WithinLimit settings invoke' := by
  obtain ⟨l, hl, hlt⟩ := not_within_iff.mp hw
  rw [h.elapsed] at hl
  rw [durationMs_eq hr] at hlt
  exact not_within_iff.mpr ⟨l, hl, hlt⟩

theorem undisturbed (hu : v.Undisturbed settings invoke) : w.Undisturbed settings invoke' := by
  intro c hc
  rw [← h.cancelAtMs hr] at hc
  rw [← h.endMs hr]
  exact hu c hc

theorem inTime (ht : v.InTime settings invoke) : w.InTime settings invoke' :=
  ⟨h.starts ht.toStarts, h.within hr ht.within, h.undisturbed hr ht.undisturbed⟩

/-- An answer in time gets the same directive whatever its body. -/
theorem directs {d : Directive} {a : Answer} (hd : v.Directs settings invoke d a) :
    ∃ b, w.Directs settings invoke' d b ∧ b.status = a.status := by
  obtain ⟨b, hb, hstatus⟩ := Reaction.exists_answer_of_withoutBody hr hd.result
  refine ⟨b, ⟨h.inTime hr hd.toInTime, hb, ?_⟩, hstatus⟩
  rw [← h.stage, hstatus]
  exact hd.routed

omit hr

/-- A stage fails in the same way whatever the bodies are. What comes of its call
matters only if the call is made. -/
theorem fails (hr : v.Starts settings →
      (v.reaction invoke).withoutBody = (w.reaction invoke').withoutBody)
    {e : PipelineError} {s : Session} (hfail : v.Fails settings invoke e s) :
    ∃ t, w.Fails settings invoke' e t ∧ s.InStep t := by
  cases hfail with
  | cancelledBefore hc =>
      rw [h.stage]
      exact ⟨w.session, .cancelledBefore (h.session.isCancelled.symm.trans hc), h.session⟩
  | deadlineOver hc hd hle =>
      rw [h.stage]
      rw [h.elapsed] at hle
      exact ⟨w.session, .deadlineOver (h.session.isCancelled.symm.trans hc) hd hle, h.session⟩
  | cancelledMeanwhile hs hc hlt =>
      have hr := hr hs
      rw [h.stage]
      rw [h.cancelAtMs hr] at hc
      rw [h.endMs hr] at hlt
      exact ⟨_, .cancelledMeanwhile (h.starts hs) hc hlt, h.leave hr _⟩
  | deadlineReached hs hu hw hd hf =>
      have hr := hr hs
      rw [h.stage, h.endMs hr]
      rw [h.elapsed] at hf
      exact ⟨_, .deadlineReached (h.starts hs) (h.undisturbed hr hu) (h.not_within hr hw) hd hf,
        h.leave hr _⟩
  | timedOut hs hu hw ht hf =>
      have hr := hr hs
      rw [h.stage, h.endMs hr]
      rw [h.elapsed] at hf
      exact ⟨_, .timedOut (h.starts hs) (h.undisturbed hr hu) (h.not_within hr hw) ht hf,
        h.leave hr _⟩
  | unreachable ht he =>
      have hr := hr ht.toStarts
      rw [h.stage]
      exact ⟨_, .unreachable (h.inTime hr ht) (Reaction.error_of_withoutBody hr he), h.after hr⟩
  | unusable ht he =>
      have hr := hr ht.toStarts
      rw [h.stage]
      exact ⟨_, .unusable (h.inTime hr ht) (Reaction.error_of_withoutBody hr he), h.after hr⟩
  | unrouted ht ha hn =>
      have hr := hr ht.toStarts
      obtain ⟨b, hb, hstatus⟩ := Reaction.exists_answer_of_withoutBody hr ha
      rw [h.stage, ← hstatus] at hn ⊢
      exact ⟨_, .unrouted (h.inTime hr ht) hb hn, h.after hr⟩

end Visit.InStep

namespace Pipeline

variable {settings : PipelineSettings} {invoke invoke' : Invoker} {startMs : Nat}
variable {stage : Stage} {queue : List Stage} {c c' : Carried} {s t : Session}

/-! ## The calls of the rest of a queue -/

/-- A run forgets no call: those made before it are still there behind its own. -/
theorem calls_suffix_runStages (settings : PipelineSettings) (invoke : Invoker) (startMs : Nat)
    (queue : List Stage) (c : Carried) (s : Session) :
    s.calls <:+ (runStages settings invoke startMs queue c s).2.calls := by
  induction queue generalizing c s with
  | nil => exact List.suffix_refl _
  | cons stage queue ih =>
      have hstep : s.calls <:+ ((stage.visit startMs c.payload s).after invoke).calls :=
        List.suffix_cons _ _
      rcases (stage.visit startMs c.payload s).forwards_or_rejects_or_fails settings invoke with
        ⟨a, ha⟩ | ⟨a, ha⟩ | ⟨e, s', hfail⟩
      · rw [runStages_of_forward ha]
        exact hstep.trans (ih (c.absorb a) _)
      · rw [runStages_of_terminate ha]
        exact hstep
      · rw [runStages_of_fails hfail]
        rcases hfail.calls with ⟨rfl, -⟩ | ⟨hcalls, -⟩
        · exact List.suffix_refl _
        · show s.calls <:+ s'.calls
          rw [hcalls]
          exact List.suffix_cons _ _

/-- A stage that starts has its call made, whatever comes of the call and of the run after it. -/
theorem call_suffix_runStages (hs : (stage.visit startMs c.payload s).Starts settings) :
    (stage.visit startMs c.payload s).call :: s.calls <:+
      (runStages settings invoke startMs (stage :: queue) c s).2.calls := by
  rcases (stage.visit startMs c.payload s).forwards_or_rejects_or_fails settings invoke with
    ⟨a, ha⟩ | ⟨a, ha⟩ | ⟨e, s', hfail⟩
  · rw [runStages_of_forward ha]
    exact calls_suffix_runStages settings invoke startMs queue (c.absorb a)
      ((stage.visit startMs c.payload s).after invoke)
  · rw [runStages_of_terminate ha]
    exact List.suffix_refl _
  · rw [runStages_of_fails hfail]
    rcases hfail.calls with ⟨-, hnot⟩ | ⟨hcalls, -⟩
    · exact absurd hs hnot
    · show _ <:+ s'.calls
      rw [hcalls]
      exact List.suffix_refl _

/-! ## Two runs in step -/

/-- The calls that stand at the same place in two lists come to the same, apart from the bodies of
the answers. The first `before` calls do not count, as they were made earlier. -/
def ReactAlike (invoke invoke' : Invoker) (before : Nat) (calls calls' : List Call) : Prop :=
  ∀ made made', made <:+ calls → made' <:+ calls' → made.length = made'.length →
    before < made.length → (invoke made).withoutBody = (invoke' made').withoutBody

theorem ReactAlike.mono {before later : Nat} {calls calls' : List Call}
    (h : ReactAlike invoke invoke' before calls calls') (hle : before ≤ later) :
    ReactAlike invoke invoke' later calls calls' :=
  fun made made' hmade hmade' hlength hlt =>
    h made made' hmade hmade' hlength (Nat.lt_of_le_of_lt hle hlt)

private def bare : Except PipelineError (Outcome × List StageRecord) →
    Except PipelineError (Outcome × List StageRecord) :=
  Except.map fun o => (o.1.withoutBody, o.2.map StageRecord.withoutBody)

private theorem bare_precede (records : List StageRecord)
    (r : Except PipelineError (Outcome × List StageRecord) × Session) :
    bare (precede records r).1 =
      (precede (records.map StageRecord.withoutBody) (bare r.1, r.2)).1 := by
  obtain ⟨r, s⟩ := r
  cases r <;> simp [bare, precede, Except.map]

/-- In the records of two visits in step the bodies leave their marks only. -/
private theorem withoutBody_record {v w : Visit} {d : Directive} {a b : Answer}
    (h : v.InStep w) (hr : (v.reaction invoke).withoutBody = (w.reaction invoke').withoutBody)
    (hstatus : b.status = a.status) :
    (v.record invoke d a).withoutBody = (w.record invoke' d b).withoutBody := by
  simp only [Visit.record, StageRecord.withoutBody, h.stage, Visit.durationMs_eq hr, hstatus]

/-- Two runs that begin in step stay so to their end. The step is that of one stage, and the
induction is over the queue. -/
theorem runStages_inStep (hs : s.InStep t) (hstatus : c.lastStatus = c'.lastStatus)
    (halike : ReactAlike invoke invoke' s.calls.length
      (runStages settings invoke startMs queue c s).2.calls
      (runStages settings invoke' startMs queue c' t).2.calls) :
    bare (runStages settings invoke startMs queue c s).1 =
        bare (runStages settings invoke' startMs queue c' t).1 ∧
      (runStages settings invoke startMs queue c s).2.InStep
        (runStages settings invoke' startMs queue c' t).2 := by
  induction queue generalizing c c' s t with
  | nil =>
      refine ⟨?_, hs⟩
      simp only [runStages, bare, Except.map, Outcome.withoutBody, hstatus]
  | cons stage queue ih =>
      have hvw := stage.visit_inStep startMs c.payload c'.payload hs
      -- the call is made in both runs, so what comes of it is among the things agreed on
      have hr : (stage.visit startMs c.payload s).Starts settings →
          ((stage.visit startMs c.payload s).reaction invoke).withoutBody =
            ((stage.visit startMs c'.payload t).reaction invoke').withoutBody := fun hstarts =>
        halike _ _ (call_suffix_runStages hstarts) (call_suffix_runStages (hvw.starts hstarts))
          (congrArg (· + 1) hs.length_calls) (Nat.lt_succ_self _)
      rcases (stage.visit startMs c.payload s).forwards_or_rejects_or_fails settings invoke with
        ⟨a, ha⟩ | ⟨a, ha⟩ | ⟨e, s', hfail⟩
      · have hr := hr ha.toStarts
        obtain ⟨b, hb, hab⟩ := hvw.directs hr ha
        rw [runStages_of_forward ha, runStages_of_forward hb] at halike ⊢
        have hlast : (c.absorb a).lastStatus = (c'.absorb b).lastStatus :=
          congrArg some hab.symm
        obtain ⟨hresult, hsession⟩ :=
          ih (hvw.after hr) hlast (halike.mono (Nat.le_succ s.calls.length))
        refine ⟨?_, hsession⟩
        rw [bare_precede, bare_precede, hresult, List.map_singleton, List.map_singleton,
          withoutBody_record hvw hr hab]
        rfl
      · have hr := hr ha.toStarts
        obtain ⟨b, hb, hab⟩ := hvw.directs hr ha
        rw [runStages_of_terminate ha, runStages_of_terminate hb]
        refine ⟨?_, hvw.after hr⟩
        simp only [bare, Except.map, Outcome.withoutBody, List.map_singleton, hab,
          withoutBody_record hvw hr hab]
      · obtain ⟨t', hfail', hst⟩ := hvw.fails hr hfail
        rw [runStages_of_fails hfail, runStages_of_fails hfail']
        exact ⟨rfl, hst⟩

private theorem execute_withoutBodies (settings : PipelineSettings) (invoke : Invoker)
    (route : String) (queue : List Stage) (payload : ByteArray) (s : Session) :
    (execute settings invoke route queue payload s).1.map Run.withoutBodies =
      (bare (runStages settings invoke s.nowMs queue (.start payload) s).1).map
        fun o => ⟨route, o.1, o.2⟩ := by
  rw [execute]
  obtain ⟨r, s'⟩ := runStages settings invoke s.nowMs queue (.start payload) s
  cases r <;> rfl

/-- The calls of a run are to the services of the first entries of its queue. -/
theorem exists_services_prefix (settings : PipelineSettings) (invoke : Invoker) (route : String)
    (queue : List Stage) (payload : ByteArray) (s : Session) :
    ∃ entered : List Stage, entered <+: queue ∧
      (execute settings invoke route queue payload s).2.calls.map Call.service =
        (entered.map Stage.service).reverse ++ s.calls.map Call.service := by
  obtain ⟨made, hmade, hcalls⟩ := exists_made settings invoke route queue payload s
  refine ⟨made.map Visit.stage, hmade.stages_first, ?_⟩
  rw [hcalls, List.map_append, List.map_reverse, List.map_map, List.map_map]
  rfl

/-- The bodies of answers have no say in what becomes of a run. Two runs whose calls come
to the same apart from the bodies enter the same stages, take the same time, and end with
the same error or report, up to the final payload and the marks of replaced payloads. If
they do not complete, the caller gets the same response. -/
theorem execute_regardless_of_bodies (settings : PipelineSettings) (invoke invoke' : Invoker)
    (route : String) (queue : List Stage) (payload payload' : ByteArray) (s : Session)
    (halike : ReactAlike invoke invoke' s.calls.length
      (execute settings invoke route queue payload s).2.calls
      (execute settings invoke' route queue payload' s).2.calls) :
    let run := execute settings invoke route queue payload s
    let run' := execute settings invoke' route queue payload' s
    (∃ entered : List Stage, entered <+: queue ∧
      run.2.calls.map Call.service =
        (entered.map Stage.service).reverse ++ s.calls.map Call.service ∧
      run'.2.calls.map Call.service =
        (entered.map Stage.service).reverse ++ s.calls.map Call.service) ∧
    run.2.nowMs = run'.2.nowMs ∧
    run.1.map Run.withoutBodies = run'.1.map Run.withoutBodies ∧
    ((∀ report, run.1 = .ok report → report.outcome.isRejected = true) →
      Response.ofResult run.1 = Response.ofResult run'.1) := by
  intro run run'
  rw [session_execute, session_execute] at halike
  have hstatus : (Carried.start payload).lastStatus = (Carried.start payload').lastStatus := rfl
  obtain ⟨hbare, hsession⟩ := runStages_inStep (.refl s) hstatus halike
  rw [← session_execute settings invoke route, ← session_execute settings invoke' route]
    at hsession
  have hresult : run.1.map Run.withoutBodies = run'.1.map Run.withoutBodies := by
    rw [execute_withoutBodies, execute_withoutBodies, hbare]
  obtain ⟨entered, hentered, hservices⟩ :=
    exists_services_prefix settings invoke route queue payload s
  exact ⟨⟨entered, hentered, hservices, hsession.services.symm.trans hservices⟩, hsession.now,
    hresult, Response.ofResult_eq_of_withoutBodies hresult⟩

/-- A stage that hands status 200 on and rejects any other. -/
def pickyStage (name : String) : Stage :=
  ⟨name, default, (RoutingTable.empty.on 200 .forward).otherwise .terminate⟩

/-- Services of which the first answers 200 and all others 422, with bodies by the number of the
call. -/
def refusingServices (body : Nat → ByteArray) : Invoker := fun calls =>
  ⟨.ok ⟨if calls.length ≤ 1 then 200 else 422, body calls.length⟩, 5, false⟩

/-- A request that the second stage rejects is answered in the same way whether the
services answer with bodies or without. -/
theorem execute_regardless_of_bodies_refused :
    let queue := [pickyStage "first", pickyStage "second"]
    let run := execute default (refusingServices fun n => ⟨#[n.toUInt8, 1]⟩) "orders" queue
      ⟨#[7]⟩ (.start none)
    let run' := execute default (refusingServices fun _ => .empty) "orders" queue .empty
      (.start none)
    ReactAlike (refusingServices fun n => ⟨#[n.toUInt8, 1]⟩) (refusingServices fun _ => .empty) 0
        run.2.calls run'.2.calls ∧
      run.1 = .ok ⟨"orders", .rejected "second" 422,
        [⟨"first", 200, .forward, true, 5⟩, ⟨"second", 422, .terminate, true, 5⟩]⟩ ∧
      Response.ofResult run.1 = Response.ofResult run'.1 := by
  intro queue run run'
  have halike : ReactAlike (refusingServices fun n => ⟨#[n.toUInt8, 1]⟩)
      (refusingServices fun _ => .empty) 0 run.2.calls run'.2.calls := by
    intro made made' _ _ hlength _
    simp [Reaction.withoutBody, Reaction.map, refusingServices, Except.map, hlength]
  have hrun : run.1 = .ok ⟨"orders", .rejected "second" 422,
      [⟨"first", 200, .forward, true, 5⟩, ⟨"second", 422, .terminate, true, 5⟩]⟩ := by
    rfl
  obtain ⟨-, -, -, hresponse⟩ := execute_regardless_of_bodies default
    (refusingServices fun n => ⟨#[n.toUInt8, 1]⟩) (refusingServices fun _ => .empty) "orders"
    queue ⟨#[7]⟩ .empty (.start none) halike
  refine ⟨halike, hrun, hresponse ?_⟩
  intro report hreport
  rw [show (execute default _ "orders" queue _ _).1 = _ from hrun, Except.ok.injEq] at hreport
  rw [← hreport]
  rfl

end Pipeline

end StageRelay
