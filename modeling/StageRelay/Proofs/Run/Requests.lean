import StageRelay.Http.Client
import StageRelay.Proofs.Run.Bodies
import StageRelay.Proofs.Run.Outcome

/-!
# The requests of a run

When services are called with a client, a run sends the client one request for each
call, and it depends on the client by what comes of these requests only. A method
without a body leaves the payload aside and does not lose it: the next request with a
body carries the latest body that was answered.

`Heeds` lists what the result of a request does to the run, and `execute_over_client`
is the whole account of a run over a client.
-/

namespace StageRelay

/-- The requests that the calls of a session become, in the order in which they are
sent. -/
def Session.requests (s : Session) : List HttpRequest := (s.calls.map Call.httpRequest).reverse

structure HttpRequest.IsFor (q : HttpRequest) (service : Service) (payload : ByteArray) :
    Prop where
  method : q.method = service.method.name
  url : q.url = service.uri
  headers : q.headers = service.headers
  body_iff : ∀ b, q.body = some b ↔
    (service.method = .post ∨ service.method = .put ∨ service.method = .patch) ∧ b = payload

theorem ServiceMethod.carriesBody_iff {m : ServiceMethod} :
    m.carriesBody = true ↔ m = .post ∨ m = .put ∨ m = .patch := by
  cases m <;> simp [carriesBody]

theorem Call.isFor_httpRequest (c : Call) : c.httpRequest.IsFor c.service c.payload where
  method := rfl
  url := rfl
  headers := rfl
  body_iff b := by
    rw [← ServiceMethod.carriesBody_iff, httpRequest]
    by_cases h : c.service.method.carriesBody = true <;> simp [h, eq_comm]

namespace Visit

variable {settings : PipelineSettings} {invoke invoke' : Invoker} {v : Visit}

def request (v : Visit) : HttpRequest := v.call.httpRequest

/-! ## What a visit depends on -/

/-- A stage that does not start fails whatever the services are. -/
theorem outcome_of_not_starts (h : ¬ v.Starts settings) :
    ∃ e, ∀ k : Invoker, v.outcome settings k = (.error e, v.session) := by
  by_cases hc : v.session.isCancelled = true
  · exact ⟨_, fun _ => outcome_of_cancelled hc⟩
  have hc : v.session.isCancelled = false := by simpa using hc
  by_cases hd : ∀ d, settings.deadlineMs = some d → v.elapsedMs < d
  · exact absurd ⟨hc, hd⟩ h
  · simp only [Classical.not_forall, Nat.not_lt] at hd
    obtain ⟨d, hd, hle⟩ := hd
    exact ⟨_, fun _ => outcome_of_deadlineOver hc hd hle⟩

/-- A stage that starts makes one call, and only what comes of it matters. -/
theorem outcome_congr (h : v.Starts settings → v.reaction invoke' = v.reaction invoke) :
    v.outcome settings invoke' = v.outcome settings invoke := by
  by_cases hs : v.Starts settings
  · -- the services may as well react to every call as they do to this one
    have hconst (k : Invoker) :
        v.outcome settings k = v.outcome settings fun _ => v.reaction k := rfl
    rw [hconst invoke', h hs, ← hconst invoke]
  · obtain ⟨e, he⟩ := outcome_of_not_starts hs
    rw [he, he]

/-- A stage comes to an answer exactly when the service gives it in time. -/
theorem outcome_eq_ok_iff {a : Answer} {s : Session} :
    v.outcome settings invoke = (.ok a, s) ↔
      v.InTime settings invoke ∧ (v.reaction invoke).result = .ok a ∧ s = v.after invoke := by
  constructor
  · intro h
    by_cases hs : v.Starts settings
    · rcases hs.cases invoke with ht | ⟨c, hc, hlt⟩ | ⟨hu, hw⟩
      · cases hr : (v.reaction invoke).result with
        | error e => simp [outcome_of_error ht hr] at h
        | ok b =>
            simp only [outcome_of_ok ht hr, Prod.mk.injEq, Except.ok.injEq] at h
            exact ⟨ht, congrArg Except.ok h.1, h.2.symm⟩
      · simp [outcome_of_disturbed hs hc hlt] at h
      · simp [outcome_of_late hs hu hw] at h
    · obtain ⟨e, he⟩ := outcome_of_not_starts hs
      simp [he] at h
  · rintro ⟨ht, hr, rfl⟩
    exact outcome_of_ok ht hr

end Visit

namespace Pipeline

variable {settings : PipelineSettings} {invoke invoke' : Invoker} {startMs : Nat}
variable {queue : List Stage} {c : Carried} {s : Session}

/-- A run depends on its services only by what comes of the calls that it makes. -/
theorem runStages_invoke_congr
    (h : ∀ made, made <:+ (runStages settings invoke startMs queue c s).2.calls →
      s.calls.length < made.length → invoke' made = invoke made) :
    runStages settings invoke' startMs queue c s =
      runStages settings invoke startMs queue c s := by
  induction queue generalizing c s with
  | nil => rfl
  | cons stage queue ih =>
      have hanswer : stage.answer settings invoke' (s.nowMs - startMs) c.payload s =
          stage.answer settings invoke (s.nowMs - startMs) c.payload s :=
        Visit.outcome_congr (v := stage.visit startMs c.payload s) fun hs =>
          h _ (call_suffix_runStages hs) (Nat.lt_succ_self _)
      simp only [runStages, hanswer]
      rcases houtcome : stage.answer settings invoke (s.nowMs - startMs) c.payload s with
        ⟨e | a, s'⟩
      · rfl
      cases hroute : stage.routing.resolve a.status with
      | none => simp only [Stage.route, hroute]
      | some d =>
          cases d with
          | terminate => simp only [Stage.route, hroute]
          | forward =>
              obtain ⟨ht, hr, rfl⟩ := Visit.outcome_eq_ok_iff.mp
                (show (stage.visit startMs c.payload s).outcome settings invoke = _
                  from houtcome)
              -- the calls of the rest of the queue are among those of the whole
              rw [runStages_of_forward ⟨ht, hr, hroute⟩] at h
              have hrest := ih fun made hmade hlt => h made hmade (Nat.lt_of_succ_lt hlt)
              simp only [Stage.route, hroute, hrest]

/-- Behind a call that does not lead on there are no more, so that the calls of a run end with
it. -/
theorem Made.eq_of_not_forwards {vs made earlier later : List Visit} {v : Visit}
    (h : Made settings invoke vs made) (hv : vs = earlier ++ v :: later)
    (hp : ∀ u ∈ earlier, u.Forwards settings invoke) (hs : v.Starts settings)
    (hstop : ¬ v.Forwards settings invoke) : made = earlier ++ [v] := by
  obtain ⟨rest, hrest⟩ := (h.iff_starts earlier v later hv).mpr ⟨hp, hs⟩
  cases rest with
  | nil => simpa using hrest.symm
  | cons u rest =>
      obtain ⟨-, -, hforwards, -⟩ := h.starts_of_eq_append hrest.symm
      exact absurd (hforwards v (by simp)) hstop

/-- What the result `r` of the request of a visit does to a run which has come to that
visit: `made` are the visits whose requests the run sends, and `result` is its result.
Every answer is looked up by its status, and without an answer the run is aborted.
Unless it goes on, no more requests are sent. -/
structure Heeds (settings : PipelineSettings) (invoke : Invoker) (route : String)
    (earlier : List Visit) (v : Visit) (made : List Visit) (result : Except PipelineError Run)
    (r : Except ClientError Answer) : Prop where
  forward : ∀ a, r = .ok a → v.stage.routing.resolve a.status = some .forward →
    v.Forwards settings invoke
  terminate : ∀ a, r = .ok a → v.stage.routing.resolve a.status = some .terminate →
    made = earlier ++ [v] ∧
      ∃ records, result = .ok ⟨route, .rejected v.stage.name a.status, records⟩
  unrouted : ∀ a, r = .ok a → v.stage.routing.resolve a.status = none →
    made = earlier ++ [v] ∧ result = .error (.config (.unroutedStatus v.stage.name a.status))
  invalidMethod : ∀ method, r = .error (.invalidMethod method) →
    made = earlier ++ [v] ∧ result = .error (.config
      (.invalid s!"extension '{v.stage.name}' has an unusable service: method {method}"))
  builder : ∀ reason, r = .error (.builder reason) →
    made = earlier ++ [v] ∧ result = .error (.config
      (.invalid s!"extension '{v.stage.name}' has an unusable service: {reason}"))
  transport : ∀ reason, r = .error (.transport reason) →
    made = earlier ++ [v] ∧ result = .error (.serviceUnavailable v.stage.name
      v.stage.service.uri s!"transport failure: {reason}")

/-! ## Runs over a client -/

variable {client : Client} {route : String} {payload : ByteArray}
variable {earlier later made : List Visit} {v : Visit}

/-- The requests up to that of a visit are those of the session and of the visits before
it. -/
theorem Met.requests (h : Met invoke startMs payload s earlier v) :
    (v.call :: v.session.calls).map Call.httpRequest =
      (s.requests ++ (earlier ++ [v]).map Visit.request).reverse := by
  simp only [h.calls, Session.requests, List.map_cons, List.map_append, List.map_reverse,
    List.map_map, List.reverse_append, List.reverse_reverse, List.map_nil, List.reverse_cons,
    List.reverse_nil, List.nil_append, List.cons_append]
  rfl

theorem reaction_ofClient (h : Met (.ofClient client) startMs payload s earlier v) :
    (v.reaction (.ofClient client)).result =
      (client (s.requests ++ (earlier ++ [v]).map Visit.request).reverse).result.mapError
        CallError.ofClient := by
  rw [← h.requests]
  rfl

/-- A visit that fails after its call ends the run with its error, and no more calls are
made. -/
theorem stops_of_fails {e : PipelineError} {s' : Session}
    (hmade : Made settings invoke (visits invoke s.nowMs queue payload s) made)
    (hv : visits invoke s.nowMs queue payload s = earlier ++ v :: later)
    (hp : ∀ u ∈ earlier, u.Forwards settings invoke) (hs : v.Starts settings)
    (h : v.Fails settings invoke e s') :
    made = earlier ++ [v] ∧ (execute settings invoke route queue payload s).1 = .error e :=
  ⟨hmade.eq_of_not_forwards hv hp hs h.not_forwards,
    execute_error_iff.mpr ⟨earlier, v, later, hv, hp, s', h⟩⟩

private theorem unusable_method (name method : String) {reason : String}
    (h : reason = "method " ++ method) :
    s!"extension '{name}' has an unusable service: {reason}" =
      s!"extension '{name}' has an unusable service: method {method}" := by
  have hwords : "' has an unusable service: method " =
      "' has an unusable service: " ++ "method " := rfl
  simp only [toString, h, hwords, String.append_assoc]

theorem heeds_of_inTime
    (hmade : Made settings (.ofClient client)
      (visits (.ofClient client) s.nowMs queue payload s) made)
    (hv : visits (.ofClient client) s.nowMs queue payload s = earlier ++ v :: later)
    (hp : ∀ u ∈ earlier, u.Forwards settings (.ofClient client))
    (ht : v.InTime settings (.ofClient client)) :
    Heeds settings (.ofClient client) route earlier v made
      (execute settings (.ofClient client) route queue payload s).1
      (client (s.requests ++ (earlier ++ [v]).map Visit.request).reverse).result := by
  have hs := ht.toStarts
  have hr := reaction_ofClient (met_of_visits_eq_append hv)
  constructor
  case forward =>
    intro a ha hroute
    rw [ha] at hr
    exact ⟨a, ht, hr, hroute⟩
  case terminate =>
    intro a ha hroute
    rw [ha] at hr
    have hdirects : v.Directs settings (.ofClient client) .terminate a := ⟨ht, hr, hroute⟩
    obtain ⟨answers, hall⟩ := exists_allForward_iff.mpr hp
    exact ⟨hmade.eq_of_not_forwards hv hp hs hdirects.not_forwards, _,
      execute_rejected_iff.mpr ⟨rfl, earlier, v, later, answers, a, hv, hall, hdirects, rfl, rfl,
        rfl⟩⟩
  case unrouted =>
    intro a ha hroute
    rw [ha] at hr
    exact stops_of_fails hmade hv hp hs (.unrouted ht hr hroute)
  case invalidMethod =>
    intro method hm
    rw [hm] at hr
    rw [← unusable_method _ method rfl]
    exact stops_of_fails hmade hv hp hs (.unusable ht hr)
  case builder =>
    intro reason hreason
    rw [hreason] at hr
    exact stops_of_fails hmade hv hp hs (.unusable ht hr)
  case transport =>
    intro reason hreason
    rw [hreason] at hr
    exact stops_of_fails hmade hv hp hs (.unreachable ht hr)

/-- A client that does the same with the requests of a run gives the same run. -/
theorem execute_ofClient_congr {client' : Client}
    (h : ∀ sent, sent <+: (execute settings (.ofClient client) route queue payload s).2.requests →
      s.requests.length < sent.length → client' sent.reverse = client sent.reverse) :
    execute settings (.ofClient client') route queue payload s =
      execute settings (.ofClient client) route queue payload s := by
  have hrun : runStages settings (.ofClient client') s.nowMs queue (.start payload) s =
      runStages settings (.ofClient client) s.nowMs queue (.start payload) s := by
    refine runStages_invoke_congr fun calls hcalls hlt => ?_
    rw [session_execute] at h
    have hsent := h (calls.map Call.httpRequest).reverse ?_ ?_
    · rw [List.reverse_reverse] at hsent
      rw [Invoker.ofClient, Invoker.ofClient, hsent]
    · rw [Session.requests, List.reverse_prefix]
      exact hcalls.map _
    · simpa [Session.requests] using hlt
  rw [execute, execute, hrun]

/-- A run over a client sends one request for each service it calls, in the order of the
queue. A request is made of what its service is configured with, and of the latest body
before it if the method has one. It is sent exactly when all stages before it lead on and
the run is then neither cancelled nor at its deadline. What the client makes of it in time
decides how the run goes on, and nothing else that the client does counts. -/
theorem execute_over_client (settings : PipelineSettings) (client : Client) (route : String)
    (queue : List Stage) (payload : ByteArray) (s : Session) :
    let invoke := Invoker.ofClient client
    let vs := visits invoke s.nowMs queue payload s
    let run := execute settings invoke route queue payload s
    vs.map Visit.stage = queue ∧
    (∃ made : List Visit, made <+: vs ∧
      run.2.requests = s.requests ++ made.map Visit.request ∧
      ∀ earlier v later, vs = earlier ++ v :: later →
        let result := (client (s.requests ++ (earlier ++ [v]).map Visit.request).reverse).result
        v.request.IsFor v.stage.service
          (latestBody payload (earlier.filterMap (Visit.answer? invoke))) ∧
        v.answer? invoke = result.toOption ∧
        (earlier ++ [v] <+: made ↔
          (∀ u ∈ earlier, u.Forwards settings invoke) ∧ v.Starts settings) ∧
        ((∀ u ∈ earlier, u.Forwards settings invoke) → v.InTime settings invoke →
          Heeds settings invoke route earlier v made run.1 result)) ∧
    ∀ client' : Client,
      (∀ sent, sent <+: run.2.requests → s.requests.length < sent.length →
        client' sent.reverse = client sent.reverse) →
      execute settings (.ofClient client') route queue payload s = run := by
  intro invoke vs run
  refine ⟨map_stage_visits invoke s.nowMs queue payload s, ?_,
    fun client' h => execute_ofClient_congr h⟩
  obtain ⟨made, hmade, hcalls⟩ := exists_made settings invoke route queue payload s
  refine ⟨made, hmade.first, ?_, fun earlier v later hv => ⟨?_, ?_, ?_, ?_⟩⟩
  · rw [Session.requests, hcalls]
    simp [Session.requests, Visit.request]
  · have hpayload := (met_of_visits_eq_append hv).payload
    rw [← hpayload]
    exact v.call.isFor_httpRequest
  · rw [Visit.answer?, reaction_ofClient (met_of_visits_eq_append hv)]
    cases (client (s.requests ++ (earlier ++ [v]).map Visit.request).reverse).result <;> rfl
  · exact hmade.iff_starts earlier v later hv
  · exact fun hp ht => heeds_of_inTime hmade hv hp ht

end Pipeline

end StageRelay
