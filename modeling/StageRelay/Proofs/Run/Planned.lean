import StageRelay.Proofs.Run.Calls
import StageRelay.Proofs.Run.Outcome

/-!
# Runs and their plans

Handling a request is planning it and running the plan. Without a plan nothing is called, and
the error of the planning is the error of the request. With a plan the services called are
the first of its queue, and so are the extensions that the report of the run names; a run
that completes names them all.
-/

namespace StageRelay.Pipeline

variable {settings : PipelineSettings} {invoke : Invoker} {route : String} {queue : List Stage}
variable {payload : ByteArray} {s : Session} {passed : List Visit} {answers : List Answer}

/-! ## Handling is planning and running -/

section Handling

variable {p : Pipeline} {evaluate : Evaluator} {request : Request}

theorem handle_of_plan_eq_error {e : PipelineError}
    (h : (p.plan evaluate request).answer = .error e) (invoke : Invoker) (s : Session) :
    p.handle evaluate invoke request s = (.error e, s) := by
  rw [handle, h]

theorem handle_of_plan_eq_ok {plan : Plan} (h : (p.plan evaluate request).answer = .ok plan)
    (invoke : Invoker) (s : Session) :
    p.handle evaluate invoke request s =
      execute p.settings invoke plan.route plan.queue request.payload s := by
  rw [handle, h]

end Handling

/-! ## The calls of a run and its queue -/

/-- The calls of a run are to the services of the first stages of its queue, and the first
call carries the payload that the run began with. -/
theorem exists_calls_of_queue (settings : PipelineSettings) (invoke : Invoker) (route : String)
    (queue : List Stage) (payload : ByteArray) (s : Session) :
    ∃ made : List Call,
      (execute settings invoke route queue payload s).2.calls = made.reverse ++ s.calls ∧
      made.map Call.service <+: queue.map Stage.service ∧
      ∀ first ∈ made.head?, first.payload = payload := by
  obtain ⟨made, hmade, hcalls⟩ := exists_made settings invoke route queue payload s
  refine ⟨made.map Visit.call, hcalls, ?_, ?_⟩
  · have hservices := hmade.stages_first.map Stage.service
    rw [List.map_map] at hservices ⊢
    exact hservices
  · intro first hfirst
    cases made with
    | nil => cases hfirst
    | cons v made =>
        obtain rfl := Option.some.inj hfirst
        obtain ⟨rest, hrest⟩ := hmade.first
        have hvisits : visits invoke s.nowMs queue payload s = [] ++ v :: (made ++ rest) :=
          hrest.symm
        exact (met_of_visits_eq_append hvisits).payload

/-! ## The records of a run and its queue -/

theorem extensions_forwardRecords (h : AllForward settings invoke passed answers) :
    (forwardRecords invoke passed answers).map StageRecord.extension =
      passed.map fun v => v.stage.name := by
  induction h with
  | nil => rfl
  | cons _ _ ih =>
      rw [List.map_cons, ← ih]
      rfl

theorem names_visits (invoke : Invoker) (startMs : Nat) (queue : List Stage)
    (payload : ByteArray) (s : Session) :
    ((visits invoke startMs queue payload s).map fun v => v.stage.name) = queue.map Stage.name := by
  rw [← map_stage_visits invoke startMs queue payload s, List.map_map, map_stage_visits]
  rfl

/-- The records of a report name the first stages of the queue, and all of them if the run
completes. -/
theorem extensions_of_report {report : Run}
    (h : (execute settings invoke route queue payload s).1 = .ok report) :
    report.route = route ∧
      report.stages.map StageRecord.extension <+: queue.map Stage.name ∧
      ∀ final status, report.outcome = .completed final status →
        report.stages.map StageRecord.extension = queue.map Stage.name := by
  have hnames := names_visits invoke s.nowMs queue payload s
  obtain ⟨label, outcome, records⟩ := report
  cases outcome with
  | completed final status =>
      obtain ⟨rfl, answers, hall, -, -, rfl⟩ := execute_completed_iff.mp h
      have hall' := (extensions_forwardRecords hall).trans hnames
      exact ⟨rfl, hall' ▸ List.prefix_refl _, fun _ _ _ => hall'⟩
  | rejected name status =>
      obtain ⟨rfl, passed, v, rest, answers, a, hv, hp, -, -, -, rfl⟩ :=
        execute_rejected_iff.mp h
      refine ⟨rfl, ?_, by rintro final status ⟨⟩⟩
      rw [← hnames, hv, List.map_append, List.map_append, List.map_cons,
        extensions_forwardRecords hp]
      exact ⟨rest.map fun v => v.stage.name, by simp [Visit.record]⟩

/-- What is done with a request is what its plan says. Without a plan the error is that of
the planning and no service is called. With a plan the calls go to the first services of its
queue, beginning with the payload of the request; a report is about the route of the plan and
names the first extensions of its queue, and all of them if the run completes. -/
theorem handle_follows_plan (p : Pipeline) (evaluate : Evaluator) (invoke : Invoker)
    (request : Request) (s : Session) :
    let result := p.handle evaluate invoke request s
    (∀ e, (p.plan evaluate request).answer = .error e → result = (.error e, s)) ∧
    ∀ plan, (p.plan evaluate request).answer = .ok plan →
      (∃ made : List Call, result.2.calls = made.reverse ++ s.calls ∧
        made.map Call.service <+: plan.queue.map Stage.service ∧
        ∀ first ∈ made.head?, first.payload = request.payload) ∧
      ∀ report, result.1 = .ok report →
        report.route = plan.route ∧
        report.stages.map StageRecord.extension <+: plan.queue.map Stage.name ∧
        ∀ final status, report.outcome = .completed final status →
          report.stages.map StageRecord.extension = plan.queue.map Stage.name := by
  refine ⟨fun e he => handle_of_plan_eq_error he invoke s, ?_⟩
  intro plan hplan
  rw [handle_of_plan_eq_ok hplan]
  exact ⟨exists_calls_of_queue p.settings invoke plan.route plan.queue request.payload s,
    fun report hreport => extensions_of_report hreport⟩

end StageRelay.Pipeline
