import StageRelay.Pipeline.Plan
import StageRelay.Proofs.Lists

/-!
# Which route is taken, and with which queue

The first route that the evaluator accepts is taken. `Route.first_or_none` divides a
table of routes at that route, if there is one, and `Pipeline.answer_plan_of_first` and
`Pipeline.answer_plan_of_none` say what is planned then. The theorems about plans start
from there. The label of a route shows in the plan and in the wording of an error, and
nothing else depends on it.

What is asked on the way, and how often, shows with an evaluator that remembers.
-/

namespace StageRelay

/-- An evaluator with a memory: an answer depends on what is remembered, and changes it. Such an
evaluator notices every question, so that none can be asked in secret. -/
abbrev RememberingEvaluator (σ : Type) := Condition → Request → σ → Bool × σ

/-- The evaluator that keeps the questions it was asked and does not heed them. Its memory is the
account of what was asked. -/
def Evaluator.recording (evaluate : Evaluator) : RememberingEvaluator (List Condition) :=
  fun c request asked => (evaluate c request, asked ++ [c])

namespace Route

structure IsFirst (evaluate : Evaluator) (request : Request) (before : List Route) (r : Route) :
    Prop where
  rejected : ∀ q ∈ before, evaluate q.condition request = false
  accepted : evaluate r.condition request = true

variable {evaluate : Evaluator} {request : Request} {before after routes : List Route} {r : Route}

/-- Some routes are all rejected, or one of them is the first that is accepted. -/
theorem first_or_none (evaluate : Evaluator) (request : Request) (routes : List Route) :
    (∀ q ∈ routes, evaluate q.condition request = false) ∨
      ∃ before r after, routes = before ++ r :: after ∧ IsFirst evaluate request before r := by
  rcases forall_or_first (fun r => evaluate r.condition request = false) routes with
    hnone | ⟨before, r, after, rfl, hrejected, haccepted⟩
  · exact .inl hnone
  · exact .inr ⟨before, r, after, rfl, hrejected, eq_true_of_ne_false haccepted⟩

private theorem answer_selectFrom_of_first (h : IsFirst evaluate request before r) (index : Nat)
    (after : List Route) :
    (selectFrom evaluate request index (before ++ r :: after)).answer =
      some (index + before.length, r) := by
  obtain ⟨hrejected, haccepted⟩ := h
  induction before generalizing index with
  | nil => simp [selectFrom, haccepted, Consulted.pure]
  | cons q before ih =>
      obtain ⟨hq, hrejected⟩ := List.forall_mem_cons.mp hrejected
      rw [List.cons_append, selectFrom, if_neg (by simp [hq]), Consulted.answer_after,
        ih (index + 1) hrejected, List.length_cons, Nat.add_right_comm, Nat.add_assoc]

private theorem answer_selectFrom_of_none
    (h : ∀ q ∈ routes, evaluate q.condition request = false) (index : Nat) :
    (selectFrom evaluate request index routes).answer = none := by
  induction routes generalizing index with
  | nil => rfl
  | cons q routes ih =>
      obtain ⟨hq, h⟩ := List.forall_mem_cons.mp h
      rw [selectFrom, if_neg (by simp [hq]), Consulted.answer_after, ih h]

/-- The first route that is accepted is taken. -/
theorem answer_select_of_first (h : IsFirst evaluate request before r) (after : List Route) :
    (select evaluate (before ++ r :: after) request).answer = .ok (before.length, r) := by
  rw [select, Consulted.answer_map, answer_selectFrom_of_first h, Nat.zero_add]

/-- Where all routes are rejected, none is taken. -/
theorem answer_select_of_none (h : ∀ q ∈ routes, evaluate q.condition request = false) :
    (select evaluate routes request).answer =
      .error (.noRouteMatched request.method request.uri) := by
  rw [select, Consulted.answer_map, answer_selectFrom_of_none h]

end Route

/-- The stage that a reference becomes for a request, if its extension is active and its
own condition holds. -/
def StageRef.stage? (evaluate : Evaluator) (registry : Registry) (request : Request)
    (s : StageRef) : Option Stage :=
  (registry.get? s.name).bind fun e =>
    if e.active && evaluate s.condition request then some e.stage else none

namespace Stage

/-- The queue of some references for a request, or the first name among them that is not registered.
It says what the queue is, without saying in which order it is found. -/
def queue? (evaluate : Evaluator) (registry : Registry) (request : Request)
    (stages : List StageRef) : Except String (List Stage) :=
  match stages.find? fun s => (registry.get? s.name).isNone with
  | some s => .error s.name
  | none => .ok (stages.filterMap (StageRef.stage? evaluate registry request))

variable {evaluate : Evaluator} {registry : Registry} {request : Request}

private theorem queue?_cons_of_none {s : StageRef} (stages : List StageRef)
    (hs : registry.get? s.name = none) :
    queue? evaluate registry request (s :: stages) = .error s.name := by
  simp [queue?, hs]

private theorem queue?_cons_of_some {s : StageRef} {e : Extension} (stages : List StageRef)
    (hs : registry.get? s.name = some e) :
    queue? evaluate registry request (s :: stages) =
      (queue? evaluate registry request stages).map
        ((s.stage? evaluate registry request).toList ++ ·) := by
  rw [queue?, queue?, List.find?_cons, hs, Option.isNone_some]
  cases stages.find? fun s => (registry.get? s.name).isNone with
  | some unknown => rfl
  | none =>
      show Except.ok (List.filterMap _ (s :: stages)) = .ok _
      rw [List.filterMap_cons]
      cases s.stage? evaluate registry request <;> rfl

/-! What becomes of the first of some references: nothing more is asked when it is unknown, and it
is asked about when its extension is active. -/

section Step

variable {label : String} {s : StageRef} {e : Extension}

theorem queue_cons_of_unknown (stages : List StageRef) (hs : registry.get? s.name = none) :
    queue evaluate registry label request (s :: stages) =
      .pure (.error (.unknownExtension label s.name)) := by
  rw [queue, hs]

theorem queue_cons_of_inactive (stages : List StageRef) (hs : registry.get? s.name = some e)
    (hactive : e.active = false) :
    queue evaluate registry label request (s :: stages) =
      queue evaluate registry label request stages := by
  simp only [queue, hs, hactive, Bool.not_false, if_true]

theorem queue_cons_of_rejected (stages : List StageRef) (hs : registry.get? s.name = some e)
    (hactive : e.active = true) (hcondition : evaluate s.condition request = false) :
    queue evaluate registry label request (s :: stages) =
      (queue evaluate registry label request stages).after s.condition := by
  simp only [queue, hs, hactive, hcondition, Bool.not_true, Bool.false_eq_true, if_false]

theorem queue_cons_of_accepted (stages : List StageRef) (hs : registry.get? s.name = some e)
    (hactive : e.active = true) (hcondition : evaluate s.condition request = true) :
    queue evaluate registry label request (s :: stages) =
      ((queue evaluate registry label request stages).map (Except.map (e.stage :: ·))).after
        s.condition := by
  simp only [queue, hs, hactive, hcondition, Bool.not_true, Bool.false_eq_true, if_false, if_true]
  congr 2
  funext result
  cases result <;> rfl

end Step

/-- References are queued in their order, unless one names an extension that is not
registered. -/
theorem answer_queue (evaluate : Evaluator) (registry : Registry) (label : String)
    (request : Request) (stages : List StageRef) :
    (queue evaluate registry label request stages).answer =
      (queue? evaluate registry request stages).mapError (.unknownExtension label) := by
  induction stages with
  | nil => rfl
  | cons s stages ih =>
      cases hs : registry.get? s.name with
      | none =>
          rw [queue_cons_of_unknown stages hs, queue?_cons_of_none stages hs]
          rfl
      | some e =>
          have hstage : s.stage? evaluate registry request =
              if e.active && evaluate s.condition request then some e.stage else none := by
            rw [StageRef.stage?, hs, Option.bind_some]
          rw [queue?_cons_of_some stages hs, hstage]
          cases hactive : e.active with
          | false =>
              rw [queue_cons_of_inactive stages hs hactive, ih]
              cases queue? evaluate registry request stages <;> rfl
          | true =>
              cases hcondition : evaluate s.condition request with
              | false =>
                  rw [queue_cons_of_rejected stages hs hactive hcondition,
                    Consulted.answer_after, ih]
                  cases queue? evaluate registry request stages <;> rfl
              | true =>
                  rw [queue_cons_of_accepted stages hs hactive hcondition,
                    Consulted.answer_after, Consulted.answer_map, ih]
                  cases queue? evaluate registry request stages <;> rfl

/-- The error names a reference whose extension is not registered. -/
theorem exists_of_queue?_eq_error {name : String} {stages : List StageRef}
    (h : queue? evaluate registry request stages = .error name) :
    ∃ s ∈ stages, s.name = name ∧ registry.get? s.name = none := by
  rw [queue?] at h
  split at h
  · rename_i s hfind
    refine ⟨s, List.mem_of_find?_eq_some hfind, Except.error.inj h, ?_⟩
    simpa using List.find?_some hfind
  · cases h

/-- Each stage of a queue comes from a reference to a registered extension. -/
theorem exists_of_mem_queue? {stages : List StageRef} {queue : List Stage} {stage : Stage}
    (h : queue? evaluate registry request stages = .ok queue) (hs : stage ∈ queue) :
    ∃ s ∈ stages, ∃ e, registry.get? s.name = some e ∧ e.stage = stage := by
  rw [queue?] at h
  split at h
  · cases h
  · obtain rfl := Except.ok.inj h
    obtain ⟨s, hmem, hstage⟩ := List.mem_filterMap.mp hs
    obtain ⟨e, he, hqueued⟩ := Option.bind_eq_some_iff.mp hstage
    split at hqueued
    · exact ⟨s, hmem, e, he, Option.some.inj hqueued⟩
    · cases hqueued

end Stage

/-- The plan for a route at a position with a queue, or the error about a name that is not
registered. -/
def Route.planAt (r : Route) (index : Nat) :
    Except String (List Stage) → Except PipelineError Plan
  | .ok queue => .ok ⟨r.label index, index, queue⟩
  | .error name => .error (.config (.unknownExtension (r.label index) name))

namespace Pipeline

variable {p : Pipeline} {evaluate : Evaluator} {request : Request}
variable {before after : List Route} {r : Route}

/-- The plan is for the first route that is accepted. -/
theorem answer_plan_of_first (hp : p.routes = before ++ r :: after)
    (h : r.IsFirst evaluate request before) :
    (p.plan evaluate request).answer =
      r.planAt before.length (Stage.queue? evaluate p.registry request r.stages) := by
  simp only [plan, Consulted.bind, hp, Route.answer_select_of_first h, Consulted.answer_map,
    Stage.answer_queue]
  cases Stage.queue? evaluate p.registry request r.stages <;> rfl

/-- Where all routes are rejected, there is no plan. -/
theorem answer_plan_of_none (h : ∀ q ∈ p.routes, evaluate q.condition request = false) :
    (p.plan evaluate request).answer = .error (.noRouteMatched request.method request.uri) := by
  rw [plan]
  simp only [Consulted.bind, Route.answer_select_of_none h, Consulted.pure]

/-- There is no plan because all routes are rejected, or because the route that is taken
refers to an extension that is not registered. -/
theorem cases_of_plan_eq_error {e : PipelineError}
    (h : (p.plan evaluate request).answer = .error e) :
    (e = .noRouteMatched request.method request.uri ∧
        ∀ q ∈ p.routes, evaluate q.condition request = false) ∨
      ∃ before r after s, p.routes = before ++ r :: after ∧ s ∈ r.stages ∧
        p.registry.get? s.name = none ∧
        e = .config (.unknownExtension (r.label before.length) s.name) := by
  rcases Route.first_or_none evaluate request p.routes with
    hnone | ⟨before, r, after, hp, hfirst⟩
  · rw [answer_plan_of_none hnone] at h
    exact .inl ⟨(Except.error.inj h).symm, hnone⟩
  · rw [answer_plan_of_first hp hfirst] at h
    cases hq : Stage.queue? evaluate p.registry request r.stages with
    | ok queue =>
        rw [hq] at h
        cases h
    | error name =>
        rw [hq] at h
        obtain ⟨s, hs, rfl, hunknown⟩ := Stage.exists_of_queue?_eq_error hq
        exact .inr ⟨before, r, after, s, hp, hs, hunknown, (Except.error.inj h).symm⟩

/-- A plan is for a route of the table, with the queue of that route. -/
theorem exists_of_plan_eq_ok {plan : Plan} (h : (p.plan evaluate request).answer = .ok plan) :
    ∃ before r after, p.routes = before ++ r :: after ∧ r.IsFirst evaluate request before ∧
      plan.route = r.label before.length ∧ plan.routeIndex = before.length ∧
      Stage.queue? evaluate p.registry request r.stages = .ok plan.queue := by
  rcases Route.first_or_none evaluate request p.routes with
    hnone | ⟨before, r, after, hp, hfirst⟩
  · rw [answer_plan_of_none hnone] at h
    cases h
  · rw [answer_plan_of_first hp hfirst] at h
    cases hq : Stage.queue? evaluate p.registry request r.stages with
    | ok queue =>
        rw [hq] at h
        obtain rfl := Except.ok.inj h
        exact ⟨before, r, after, hp, hfirst, rfl, rfl, hq⟩
    | error name =>
        rw [hq] at h
        cases h

end Pipeline

end StageRelay
