import Mathlib.Algebra.GroupWithZero.Nat
import Mathlib.Data.List.Forall2
import StageRelay.Proofs.Run.Visit

/-!
# The course of a run

`Pipeline.visits` lists the visits of a queue under the assumption that every
call is awaited to its answer. A run agrees with this list up to the first visit
that does not forward. By `allForward_or_stop` either all visits forward or there is
such a first one, and `execute_of_allForward`, `execute_of_terminate` and
`execute_of_fails` say how the run ends. The theorems about whole runs start from
there and do not look into the run again.
-/

namespace StageRelay

def Stage.visit (stage : Stage) (startMs : Nat) (payload : ByteArray) (s : Session) : Visit :=
  ⟨stage, payload, s.nowMs - startMs, s⟩

/-- The body of the latest of some answers that has one, or else a payload. So an answer without a
body leaves the payload as it was. -/
def latestBody (payload : ByteArray) (answers : List Answer) : ByteArray :=
  ((answers.findRev? Answer.hasBody).map Answer.body).getD payload

theorem latestBody_cons (payload : ByteArray) (a : Answer) (answers : List Answer) :
    latestBody payload (a :: answers) =
      latestBody (if a.hasBody then a.body else payload) answers := by
  simp only [latestBody, List.findRev?]
  cases h : answers.findRev? Answer.hasBody <;> by_cases ha : a.hasBody <;> simp [ha]

theorem latestBody_append (payload : ByteArray) (first second : List Answer) :
    latestBody payload (first ++ second) = latestBody (latestBody payload first) second := by
  induction first generalizing payload with
  | nil => rfl
  | cons a first ih => rw [List.cons_append, latestBody_cons, ih, latestBody_cons]

namespace Carried

def absorbAll (c : Carried) (answers : List Answer) : Carried := answers.foldl absorb c

@[simp] theorem absorbAll_nil (c : Carried) : c.absorbAll [] = c := rfl

@[simp] theorem absorbAll_cons (c : Carried) (a : Answer) (answers : List Answer) :
    c.absorbAll (a :: answers) = (c.absorb a).absorbAll answers := rfl

theorem payload_absorbAll (c : Carried) (answers : List Answer) :
    (c.absorbAll answers).payload = latestBody c.payload answers := by
  induction answers generalizing c with
  | nil => rfl
  | cons a answers ih => rw [absorbAll_cons, ih, latestBody_cons, absorb]

theorem lastStatus_absorbAll (c : Carried) (answers : List Answer) :
    (c.absorbAll answers).lastStatus =
      (answers.getLast?.map Answer.status).or c.lastStatus := by
  induction answers generalizing c with
  | nil => simp
  | cons a answers ih =>
      rw [absorbAll_cons, ih, List.getLast?_cons]
      cases answers.getLast? <;> simp [absorb]

end Carried

namespace Visit

variable {settings : PipelineSettings} {invoke : Invoker} {v : Visit}

theorem answer?_of_directs {d : Directive} {a : Answer} (h : v.Directs settings invoke d a) :
    v.answer? invoke = some a := by
  simp [answer?, h.result, Except.toOption]

theorem payloadAfter_eq (invoke : Invoker) (v : Visit) :
    v.payloadAfter invoke = latestBody v.payload ([v].filterMap (answer? invoke)) := by
  rw [payloadAfter, List.filterMap_cons]
  cases v.answer? invoke with
  | none => rfl
  | some a => exact (latestBody_cons v.payload a []).symm

/-- A visit forwards, rejects or fails. The rest of the queue is met in the first case only. -/
theorem forwards_or_rejects_or_fails (settings : PipelineSettings) (invoke : Invoker)
    (v : Visit) :
    (∃ a, v.Directs settings invoke .forward a) ∨ (∃ a, v.Directs settings invoke .terminate a) ∨
      ∃ e s, v.Fails settings invoke e s := by
  rcases v.directs_or_fails settings invoke with ⟨d, a, h⟩ | hfail
  · cases d with
    | forward => exact .inl ⟨a, h⟩
    | terminate => exact .inr (.inl ⟨a, h⟩)
  · exact .inr (.inr hfail)

end Visit

namespace Pipeline

/-- The visits of a queue if every call is awaited to its answer: each stage is met when the
services before it have answered, with the payload that they leave. A run makes only the first of
them, but those it makes are these. -/
def visits (invoke : Invoker) (startMs : Nat) : List Stage → ByteArray → Session → List Visit
  | [], _, _ => []
  | stage :: queue, payload, s =>
    let v := stage.visit startMs payload s
    v :: visits invoke startMs queue (v.payloadAfter invoke) (v.after invoke)

def sessionAfter (invoke : Invoker) (s : Session) (passed : List Visit) : Session :=
  (passed.getLast?.map (Visit.after invoke)).getD s

/-- The records of visits that forward their answers. -/
def forwardRecords (invoke : Invoker) (passed : List Visit) (answers : List Answer) :
    List StageRecord :=
  List.zipWith (fun v a => v.record invoke .forward a) passed answers

/-- The result of a run that comes after some records. -/
def precede (records : List StageRecord)
    (r : Except PipelineError (Outcome × List StageRecord) × Session) :
    Except PipelineError (Outcome × List StageRecord) × Session :=
  (r.1.map fun o => (o.1, records ++ o.2), r.2)

@[simp] theorem precede_nil (r : Except PipelineError (Outcome × List StageRecord) × Session) :
    precede [] r = r := by
  obtain ⟨r, s⟩ := r
  cases r <;> rfl

theorem precede_precede (first second : List StageRecord)
    (r : Except PipelineError (Outcome × List StageRecord) × Session) :
    precede first (precede second r) = precede (first ++ second) r := by
  obtain ⟨r, s⟩ := r
  cases r <;> simp [precede, Except.map]

@[simp] theorem precede_ok (records others : List StageRecord) (o : Outcome) (s : Session) :
    precede records (.ok (o, others), s) = (.ok (o, records ++ others), s) := rfl

variable {settings : PipelineSettings} {invoke : Invoker} {startMs : Nat}
variable {stage : Stage} {queue : List Stage} {c : Carried} {s : Session}

theorem sessionAfter_cons (v : Visit) (passed : List Visit) :
    sessionAfter invoke s (v :: passed) = sessionAfter invoke (v.after invoke) passed := by
  rw [sessionAfter, sessionAfter, List.getLast?_cons]
  cases passed.getLast? <;> rfl

@[simp] theorem visits_nil (payload : ByteArray) : visits invoke startMs [] payload s = [] := rfl

theorem visits_cons (stage : Stage) (queue : List Stage) (payload : ByteArray) (s : Session) :
    visits invoke startMs (stage :: queue) payload s =
      stage.visit startMs payload s ::
        visits invoke startMs queue ((stage.visit startMs payload s).payloadAfter invoke)
          ((stage.visit startMs payload s).after invoke) := rfl

/-- A run leaves the session of its queue behind. -/
theorem session_execute (settings : PipelineSettings) (invoke : Invoker) (route : String)
    (queue : List Stage) (payload : ByteArray) (s : Session) :
    (execute settings invoke route queue payload s).2 =
      (runStages settings invoke s.nowMs queue (.start payload) s).2 := by
  rw [execute]
  split <;> simp_all

/-! ## One step -/

/-- The time in the record of an answered visit is what the clock advances by. -/
private theorem record_visit (d : Directive) (a : Answer) :
    (stage.visit startMs c.payload s).record invoke d a =
      ⟨stage.name, a.status, d, a.hasBody,
        ((stage.visit startMs c.payload s).after invoke).nowMs - s.nowMs⟩ := by
  simp [Visit.record, Visit.after, Visit.leave, Visit.answerMs, Stage.visit]

/-- A stage that forwards hands its answer to the rest of the queue. Its record comes before those
of the rest. -/
theorem runStages_of_forward {a : Answer}
    (h : (stage.visit startMs c.payload s).Directs settings invoke .forward a) :
    runStages settings invoke startMs (stage :: queue) c s =
      precede [(stage.visit startMs c.payload s).record invoke .forward a]
        (runStages settings invoke startMs queue (c.absorb a)
          ((stage.visit startMs c.payload s).after invoke)) := by
  have hanswer : stage.answer settings invoke (s.nowMs - startMs) c.payload s =
      (.ok a, (stage.visit startMs c.payload s).after invoke) :=
    Visit.outcome_of_ok h.toInTime h.result
  have hroute : stage.routing.resolve a.status = some .forward := h.routed
  simp only [runStages, hanswer, Stage.route, hroute, record_visit]
  cases hrest : runStages settings invoke startMs queue (c.absorb a)
      ((stage.visit startMs c.payload s).after invoke) with
  | mk r s' =>
      cases r with
      | error e => rfl
      | ok o => rfl

/-- A stage that rejects ends the run with its record. -/
theorem runStages_of_terminate {a : Answer}
    (h : (stage.visit startMs c.payload s).Directs settings invoke .terminate a) :
    runStages settings invoke startMs (stage :: queue) c s =
      (.ok (.rejected stage.name a.status,
        [(stage.visit startMs c.payload s).record invoke .terminate a]),
        (stage.visit startMs c.payload s).after invoke) := by
  have hanswer : stage.answer settings invoke (s.nowMs - startMs) c.payload s =
      (.ok a, (stage.visit startMs c.payload s).after invoke) :=
    Visit.outcome_of_ok h.toInTime h.result
  have hroute : stage.routing.resolve a.status = some .terminate := h.routed
  simp only [runStages, hanswer, Stage.route, hroute, record_visit]

private theorem runStages_of_outcome_error {e : PipelineError} {s' : Session}
    (h : (stage.visit startMs c.payload s).outcome settings invoke = (.error e, s')) :
    runStages settings invoke startMs (stage :: queue) c s = (.error e, s') := by
  have hanswer : stage.answer settings invoke (s.nowMs - startMs) c.payload s =
      (.error e, s') := h
  simp only [runStages, hanswer]

/-- A stage that fails aborts the run with its error. -/
theorem runStages_of_fails {e : PipelineError} {s' : Session}
    (h : (stage.visit startMs c.payload s).Fails settings invoke e s') :
    runStages settings invoke startMs (stage :: queue) c s = (.error e, s') := by
  cases h with
  | cancelledBefore h => exact runStages_of_outcome_error (Visit.outcome_of_cancelled h)
  | deadlineOver hc hd h =>
      exact runStages_of_outcome_error (Visit.outcome_of_deadlineOver hc hd h)
  | cancelledMeanwhile hs hc h =>
      exact runStages_of_outcome_error (Visit.outcome_of_disturbed hs hc h)
  | deadlineReached hs hu hw hd hf =>
      rw [← Visit.lateError_of_deadlineFirst hs hw hd hf]
      exact runStages_of_outcome_error (Visit.outcome_of_late hs hu hw)
  | timedOut hs hu hw ht hf =>
      rw [← Visit.lateError_of_not_deadlineFirst hs hw ht hf]
      exact runStages_of_outcome_error (Visit.outcome_of_late hs hu hw)
  | unreachable ht hr => exact runStages_of_outcome_error (Visit.outcome_of_error ht hr)
  | unusable ht hr => exact runStages_of_outcome_error (Visit.outcome_of_error ht hr)
  | @unrouted a ht hr hn =>
      have hanswer : stage.answer settings invoke (s.nowMs - startMs) c.payload s =
          (.ok a, (stage.visit startMs c.payload s).after invoke) := Visit.outcome_of_ok ht hr
      have hroute : stage.routing.resolve a.status = none := hn
      simp only [runStages, hanswer, Stage.route, hroute]
      rfl

/-! ## The visits of two queues -/

@[simp] theorem map_stage_visits (invoke : Invoker) (startMs : Nat) (queue : List Stage)
    (payload : ByteArray) (s : Session) :
    (visits invoke startMs queue payload s).map Visit.stage = queue := by
  induction queue generalizing payload s with
  | nil => rfl
  | cons stage queue ih => rw [visits_cons, List.map_cons, ih]; rfl

@[simp] theorem length_visits (invoke : Invoker) (startMs : Nat) (queue : List Stage)
    (payload : ByteArray) (s : Session) :
    (visits invoke startMs queue payload s).length = queue.length := by
  rw [← List.length_map Visit.stage, map_stage_visits]

theorem latestBody_filterMap_cons (payload : ByteArray) (v : Visit) (passed : List Visit)
    (h : v.payload = payload) :
    latestBody payload ((v :: passed).filterMap (Visit.answer? invoke)) =
      latestBody (v.payloadAfter invoke) (passed.filterMap (Visit.answer? invoke)) := by
  subst h
  rw [List.filterMap_cons, Visit.payloadAfter]
  cases v.answer? invoke with
  | none => rfl
  | some a => exact latestBody_cons _ a _

/-- The second of two queues is met with what the answers to the first leave: the payload, the time
and the calls. -/
theorem visits_append (invoke : Invoker) (startMs : Nat) (pre post : List Stage)
    (payload : ByteArray) (s : Session) :
    visits invoke startMs (pre ++ post) payload s =
      visits invoke startMs pre payload s ++
        visits invoke startMs post
          (latestBody payload ((visits invoke startMs pre payload s).filterMap
            (Visit.answer? invoke)))
          (sessionAfter invoke s (visits invoke startMs pre payload s)) := by
  induction pre generalizing payload s with
  | nil => rfl
  | cons stage pre ih =>
      rw [List.cons_append, visits_cons, visits_cons, ih, List.cons_append,
        latestBody_filterMap_cons payload _ _ rfl, sessionAfter_cons]

/-- Every division of the visits comes from one of the queue. -/
theorem exists_of_visits_eq_append {payload : ByteArray} {passed rest : List Visit}
    (h : visits invoke startMs queue payload s = passed ++ rest) :
    ∃ pre post, queue = pre ++ post ∧ visits invoke startMs pre payload s = passed ∧
      visits invoke startMs post
        (latestBody payload (passed.filterMap (Visit.answer? invoke)))
        (sessionAfter invoke s passed) = rest := by
  have hlength : passed.length ≤ queue.length := by
    rw [← length_visits invoke startMs queue payload s, h]
    simp
  have hsplit := visits_append invoke startMs (queue.take passed.length)
    (queue.drop passed.length) payload s
  rw [List.take_append_drop, h] at hsplit
  obtain ⟨hpre, hpost⟩ := List.append_inj hsplit (by simp [hlength])
  refine ⟨_, _, (List.take_append_drop passed.length queue).symm, hpre.symm, ?_⟩
  rw [← hpre] at hpost
  exact hpost.symm

/-! ## Whole runs -/

def AllForward (settings : PipelineSettings) (invoke : Invoker) (passed : List Visit)
    (answers : List Answer) : Prop :=
  List.Forall₂ (fun v a => v.Directs settings invoke .forward a) passed answers

theorem AllForward.filterMap_answer? {passed : List Visit} {answers : List Answer}
    (h : AllForward settings invoke passed answers) :
    passed.filterMap (Visit.answer? invoke) = answers := by
  induction h with
  | nil => rfl
  | cons hv _ ih => rw [List.filterMap_cons, Visit.answer?_of_directs hv, ih]

theorem exists_allForward_iff {passed : List Visit} :
    (∃ answers, AllForward settings invoke passed answers) ↔
      ∀ v ∈ passed, v.Forwards settings invoke := by
  constructor
  · rintro ⟨answers, h⟩
    induction h with
    | nil => simp
    | cons hv _ ih => exact List.forall_mem_cons.mpr ⟨⟨_, hv⟩, ih⟩
  · intro h
    induction passed with
    | nil => exact ⟨[], .nil⟩
    | cons v passed ih =>
        obtain ⟨⟨a, ha⟩, h⟩ := List.forall_mem_cons.mp h
        obtain ⟨answers, hp⟩ := ih h
        exact ⟨a :: answers, .cons ha hp⟩

theorem AllForward.snoc {passed : List Visit} {answers : List Answer} {v : Visit} {a : Answer}
    (h : AllForward settings invoke passed answers) (hv : v.Directs settings invoke .forward a) :
    AllForward settings invoke (passed ++ [v]) (answers ++ [a]) :=
  List.rel_append h (.cons hv .nil)

theorem AllForward.inTime {passed : List Visit} {answers : List Answer}
    (h : AllForward settings invoke passed answers) :
    ∀ v ∈ passed, v.InTime settings invoke := by
  intro v hv
  obtain ⟨a, ha⟩ := exists_allForward_iff.mp ⟨answers, h⟩ v hv
  exact ha.toInTime

/-- Behind stages that forward, a run goes on as a run of the rest of the queue. -/
theorem runStages_append {pre post : List Stage} {answers : List Answer}
    (hp : AllForward settings invoke (visits invoke startMs pre c.payload s) answers) :
    runStages settings invoke startMs (pre ++ post) c s =
      precede (forwardRecords invoke (visits invoke startMs pre c.payload s) answers)
        (runStages settings invoke startMs post (c.absorbAll answers)
          (sessionAfter invoke s (visits invoke startMs pre c.payload s))) := by
  induction pre generalizing c s answers with
  | nil =>
      cases hp
      simp [forwardRecords, sessionAfter]
  | cons stage pre ih =>
      rw [visits_cons] at hp ⊢
      cases hp with
      | @cons _ a _ answers hva hp =>
          have hpayload : (stage.visit startMs c.payload s).payloadAfter invoke =
              (c.absorb a).payload := by
            rw [Visit.payloadAfter, Visit.answer?_of_directs hva]
            rfl
          rw [hpayload] at hp ⊢
          rw [List.cons_append, runStages_of_forward hva, ih hp, precede_precede,
            Carried.absorbAll_cons, sessionAfter_cons]
          rfl

/-- The calls of a queue's visits and the time that they take are those of the
session after them. -/
theorem sessionAfter_visits (invoke : Invoker) (startMs : Nat) (queue : List Stage)
    (payload : ByteArray) (s : Session) :
    (sessionAfter invoke s (visits invoke startMs queue payload s)).calls =
        ((visits invoke startMs queue payload s).map Visit.call).reverse ++ s.calls ∧
      (sessionAfter invoke s (visits invoke startMs queue payload s)).nowMs =
        s.nowMs + ((visits invoke startMs queue payload s).map (Visit.durationMs invoke)).sum := by
  induction queue generalizing payload s with
  | nil => exact ⟨rfl, rfl⟩
  | cons stage queue ih =>
      rw [visits_cons, sessionAfter_cons]
      obtain ⟨hcalls, hnow⟩ := ih ((stage.visit startMs payload s).payloadAfter invoke)
        ((stage.visit startMs payload s).after invoke)
      refine ⟨?_, ?_⟩
      · rw [hcalls, List.map_cons, List.reverse_cons, List.append_assoc]
        rfl
      · rw [hnow, List.map_cons, List.sum_cons, ← Nat.add_assoc]
        rfl

/-- What a visit finds when the services before it have answered: the session that they leave, and
the latest body among their answers. -/
structure Met (invoke : Invoker) (startMs : Nat) (payload : ByteArray) (s : Session)
    (passed : List Visit) (v : Visit) : Prop where
  session : v.session = sessionAfter invoke s passed
  payload : v.payload = latestBody payload (passed.filterMap (Visit.answer? invoke))
  elapsed : v.elapsedMs = v.session.nowMs - startMs
  calls : v.session.calls = (passed.map Visit.call).reverse ++ s.calls
  now : v.session.nowMs = s.nowMs + (passed.map (Visit.durationMs invoke)).sum

/-- Each visit of a queue is met after those before it. The visits are those of the queue alone, so
that nothing else has come between. -/
theorem met_of_visits_eq_append {payload : ByteArray} {passed rest : List Visit} {v : Visit}
    (h : visits invoke startMs queue payload s = passed ++ v :: rest) :
    Met invoke startMs payload s passed v := by
  obtain ⟨pre, post, -, rfl, hpost⟩ := exists_of_visits_eq_append h
  obtain ⟨hcalls, hnow⟩ := sessionAfter_visits invoke startMs pre payload s
  cases post with
  | nil => simp at hpost
  | cons stage post =>
      rw [visits_cons, List.cons.injEq] at hpost
      obtain ⟨rfl, -⟩ := hpost
      exact ⟨rfl, rfl, rfl, hcalls, hnow⟩

/-! ## How a run ends -/

variable {route : String} {payload : ByteArray} {passed rest : List Visit}
variable {answers : List Answer} {v : Visit}

/-- A run whose stages forward up to a visit goes on with that visit. What is left of the run is
then a matter of this visit and those behind it. -/
theorem runStages_of_visits (hv : visits invoke startMs queue c.payload s = passed ++ v :: rest)
    (hp : AllForward settings invoke passed answers) :
    ∃ post, v = v.stage.visit startMs (c.absorbAll answers).payload v.session ∧
      runStages settings invoke startMs queue c s =
        precede (forwardRecords invoke passed answers)
          (runStages settings invoke startMs (v.stage :: post) (c.absorbAll answers)
            v.session) := by
  obtain ⟨pre, post, rfl, rfl, hpost⟩ := exists_of_visits_eq_append hv
  rw [hp.filterMap_answer?, ← Carried.payload_absorbAll] at hpost
  cases post with
  | nil => simp at hpost
  | cons stage post =>
      rw [visits_cons, List.cons.injEq] at hpost
      obtain ⟨rfl, -⟩ := hpost
      exact ⟨post, rfl, runStages_append hp⟩

/-- If all stages forward, the run completes. -/
theorem execute_of_allForward
    (h : AllForward settings invoke (visits invoke s.nowMs queue payload s) answers) :
    execute settings invoke route queue payload s =
      (.ok ⟨route,
        .completed (latestBody payload answers)
          ((answers.getLast?.map Answer.status).getD settings.emptyQueueStatus),
        forwardRecords invoke (visits invoke s.nowMs queue payload s) answers⟩,
        sessionAfter invoke s (visits invoke s.nowMs queue payload s)) := by
  have hrun : runStages settings invoke s.nowMs (queue ++ []) (.start payload) s = _ :=
    runStages_append h
  rw [List.append_nil] at hrun
  rw [execute, hrun]
  simp only [runStages, precede_ok, List.append_nil, Carried.payload_absorbAll,
    Carried.lastStatus_absorbAll, Carried.start, Option.or_none]

/-- If the first stage that does not forward rejects, the run is rejected. -/
theorem execute_of_terminate {a : Answer}
    (hv : visits invoke s.nowMs queue payload s = passed ++ v :: rest)
    (hp : AllForward settings invoke passed answers)
    (h : v.Directs settings invoke .terminate a) :
    execute settings invoke route queue payload s =
      (.ok ⟨route, .rejected v.stage.name a.status,
        forwardRecords invoke passed answers ++ [v.record invoke .terminate a]⟩,
        v.after invoke) := by
  obtain ⟨post, hvisit, hrun⟩ :=
    runStages_of_visits (show visits invoke s.nowMs queue (Carried.start payload).payload s = _
      from hv) hp
  rw [hvisit] at h
  rw [execute, hrun, runStages_of_terminate h, ← hvisit]
  rfl

/-- If the first stage that does not forward fails, the run is aborted. -/
theorem execute_of_fails {e : PipelineError} {s' : Session}
    (hv : visits invoke s.nowMs queue payload s = passed ++ v :: rest)
    (hp : AllForward settings invoke passed answers) (h : v.Fails settings invoke e s') :
    execute settings invoke route queue payload s = (.error e, s') := by
  obtain ⟨post, hvisit, hrun⟩ :=
    runStages_of_visits (show visits invoke s.nowMs queue (Carried.start payload).payload s = _
      from hv) hp
  rw [hvisit] at h
  rw [execute, hrun, runStages_of_fails h]
  rfl

/-- Some visits all forward, or there is a first one that rejects or fails. How a run ends is
decided by which of these it is. -/
theorem allForward_or_stop (settings : PipelineSettings) (invoke : Invoker) (vs : List Visit) :
    (∃ answers, AllForward settings invoke vs answers) ∨
      ∃ passed v rest answers, vs = passed ++ v :: rest ∧
        AllForward settings invoke passed answers ∧
        ((∃ a, v.Directs settings invoke .terminate a) ∨ ∃ e s, v.Fails settings invoke e s) := by
  induction vs with
  | nil => exact .inl ⟨[], .nil⟩
  | cons v vs ih =>
      rcases v.forwards_or_rejects_or_fails settings invoke with ⟨a, ha⟩ | hstop
      · rcases ih with ⟨answers, hall⟩ | ⟨passed, u, rest, answers, rfl, hp, hstop⟩
        · exact .inl ⟨a :: answers, .cons ha hall⟩
        · exact .inr ⟨v :: passed, u, rest, a :: answers, rfl, .cons ha hp, hstop⟩
      · exact .inr ⟨[], v, vs, [], rfl, .nil, hstop⟩

end Pipeline

end StageRelay
