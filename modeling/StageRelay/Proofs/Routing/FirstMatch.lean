import StageRelay.Proofs.Routing.Selection

/-!
# First match

A table gives the first route whose condition is accepted. Asked about are the conditions of the
routes up to this one, or of all routes if none is accepted, each once and in the order of the
table. So an evaluator that answers these questions in the same way gives the same route.

None of this needs an evaluator that always answers alike. `Route.selectRemembering` consults an
evaluator with a memory, which every question may change and every answer may depend on. The route
it gives is the one that is accepted with the memory that the routes before it have left, all of
them rejected in turn, and no later question has touched the memory that is left in the end. An
evaluator without a memory is one that keeps the questions and does not heed them.
-/

namespace StageRelay

namespace Route

variable {evaluate evaluate' : Evaluator} {request : Request}
variable {before after routes : List Route} {r : Route} {i : Nat}

/-! ## What is asked -/

private theorem asked_selectFrom_of_first (h : IsFirst evaluate request before r) (index : Nat)
    (after : List Route) :
    (selectFrom evaluate request index (before ++ r :: after)).asked =
      (before ++ [r]).map (·.condition) := by
  obtain ⟨hrejected, haccepted⟩ := h
  induction before generalizing index with
  | nil => simp [selectFrom, haccepted, Consulted.pure]
  | cons q before ih =>
      obtain ⟨hq, hrejected⟩ := List.forall_mem_cons.mp hrejected
      rw [List.cons_append, selectFrom, if_neg (by simp [hq]), Consulted.asked_after,
        ih (index + 1) hrejected]
      rfl

private theorem asked_selectFrom_of_none
    (h : ∀ q ∈ routes, evaluate q.condition request = false) (index : Nat) :
    (selectFrom evaluate request index routes).asked = routes.map (·.condition) := by
  induction routes generalizing index with
  | nil => rfl
  | cons q routes ih =>
      obtain ⟨hq, h⟩ := List.forall_mem_cons.mp h
      rw [selectFrom, if_neg (by simp [hq]), Consulted.asked_after, ih h, List.map_cons]

/-- Asked about are the routes up to the first that is accepted. -/
theorem asked_select_of_first (h : IsFirst evaluate request before r) (after : List Route) :
    (select evaluate (before ++ r :: after) request).asked =
      (before ++ [r]).map (·.condition) := by
  rw [select, Consulted.asked_map, asked_selectFrom_of_first h]

/-- Asked about are all routes if none is accepted. -/
theorem asked_select_of_none (h : ∀ q ∈ routes, evaluate q.condition request = false) :
    (select evaluate routes request).asked = routes.map (·.condition) := by
  rw [select, Consulted.asked_map, asked_selectFrom_of_none h]

/-! ## What is answered -/

theorem answer_select_eq_ok_iff :
    (select evaluate routes request).answer = .ok (i, r) ↔
      ∃ before after, routes = before ++ r :: after ∧ before.length = i ∧
        IsFirst evaluate request before r := by
  constructor
  · intro h
    rcases first_or_none evaluate request routes with hnone | ⟨before, q, after, rfl, hfirst⟩
    · cases (answer_select_of_none hnone).symm.trans h
    · cases (answer_select_of_first hfirst after).symm.trans h
      exact ⟨before, after, rfl, rfl, hfirst⟩
  · rintro ⟨before, after, rfl, rfl, hfirst⟩
    exact answer_select_of_first hfirst after

theorem answer_select_eq_error_iff {e : PipelineError} :
    (select evaluate routes request).answer = .error e ↔
      (∀ q ∈ routes, evaluate q.condition request = false) ∧
        e = .noRouteMatched request.method request.uri := by
  constructor
  · intro h
    rcases first_or_none evaluate request routes with hnone | ⟨before, q, after, rfl, hfirst⟩
    · exact ⟨hnone, (Except.error.inj ((answer_select_of_none hnone).symm.trans h)).symm⟩
    · cases (answer_select_of_first hfirst after).symm.trans h
  · rintro ⟨hnone, rfl⟩
    exact answer_select_of_none hnone

/-- Only the answers to the questions that are asked matter. Two evaluators that agree on them
choose the same route. -/
theorem select_congr (h : ∀ c ∈ (select evaluate routes request).asked,
      evaluate' c request = evaluate c request) :
    select evaluate' routes request = select evaluate routes request := by
  rcases first_or_none evaluate request routes with hnone | ⟨before, r, after, rfl, hfirst⟩
  · rw [asked_select_of_none hnone, List.forall_mem_map] at h
    have hnone' : ∀ q ∈ routes, evaluate' q.condition request = false :=
      fun q hq => (h q hq).trans (hnone q hq)
    apply Consulted.ext
    · rw [answer_select_of_none hnone, answer_select_of_none hnone']
    · rw [asked_select_of_none hnone, asked_select_of_none hnone']
  · rw [asked_select_of_first hfirst, List.forall_mem_map, List.forall_mem_append,
      List.forall_mem_singleton] at h
    have hfirst' : IsFirst evaluate' request before r :=
      ⟨fun q hq => (h.1 q hq).trans (hfirst.rejected q hq), h.2.trans hfirst.accepted⟩
    apply Consulted.ext
    · rw [answer_select_of_first hfirst, answer_select_of_first hfirst']
    · rw [asked_select_of_first hfirst, asked_select_of_first hfirst']

/-! ## Evaluators with a memory -/

section Remembering

variable {σ : Type} {ask : RememberingEvaluator σ} {s t u : σ}

/-- The first route from a position on that is accepted when one route after the other is asked
about, and the memory that is left. Later routes are not asked about, and so leave no trace in
it. -/
def selectRememberingFrom (ask : RememberingEvaluator σ) (request : Request) :
    Nat → List Route → σ → Option (Nat × Route) × σ
  | _, [], s => (none, s)
  | index, r :: rs, s =>
    match ask r.condition request s with
    | (true, t) => (some (index, r), t)
    | (false, t) => selectRememberingFrom ask request (index + 1) rs t

def selectRemembering (ask : RememberingEvaluator σ) (routes : List Route) (request : Request)
    (s : σ) : Except PipelineError (Nat × Route) × σ :=
  (selectRememberingFrom ask request 0 routes s).map
    (·.elim (.error (.noRouteMatched request.method request.uri)) .ok) id

/-- Some routes are rejected when they are asked about one after the other, and this takes the
memory from one state to another. -/
inductive RejectsInTurn (ask : RememberingEvaluator σ) (request : Request) :
    List Route → σ → σ → Prop
  | nil (s : σ) : RejectsInTurn ask request [] s s
  | cons {q : Route} {routes : List Route} {s t u : σ}
      (hq : ask q.condition request s = (false, t))
      (h : RejectsInTurn ask request routes t u) : RejectsInTurn ask request (q :: routes) s u

theorem rejectsInTurn_or_first (ask : RememberingEvaluator σ) (request : Request)
    (routes : List Route) (s : σ) :
    (∃ t, RejectsInTurn ask request routes s t) ∨
      ∃ before r after t u, routes = before ++ r :: after ∧
        RejectsInTurn ask request before s t ∧ ask r.condition request t = (true, u) := by
  induction routes generalizing s with
  | nil => exact .inl ⟨s, .nil s⟩
  | cons q routes ih =>
      rcases hq : ask q.condition request s with ⟨_ | _, t⟩
      · rcases ih t with ⟨u, h⟩ | ⟨before, r, after, u, v, rfl, h, hr⟩
        · exact .inl ⟨u, .cons hq h⟩
        · exact .inr ⟨q :: before, r, after, u, v, rfl, .cons hq h, hr⟩
      · exact .inr ⟨[], q, routes, s, t, rfl, .nil s, hq⟩

theorem selectRememberingFrom_of_rejects (h : RejectsInTurn ask request before s t) (index : Nat)
    (rest : List Route) :
    selectRememberingFrom ask request index (before ++ rest) s =
      selectRememberingFrom ask request (index + before.length) rest t := by
  induction h generalizing index with
  | nil => rfl
  | cons hq h ih =>
      rw [List.cons_append, selectRememberingFrom, hq]
      show selectRememberingFrom ask request (index + 1) _ _ = _
      rw [ih, List.length_cons, Nat.add_right_comm, Nat.add_assoc]

theorem selectRemembering_of_first (h : RejectsInTurn ask request before s t)
    (hr : ask r.condition request t = (true, u)) (after : List Route) :
    selectRemembering ask (before ++ r :: after) request s = (.ok (before.length, r), u) := by
  rw [selectRemembering, selectRememberingFrom_of_rejects h, selectRememberingFrom, hr,
    Nat.zero_add]
  rfl

theorem selectRemembering_of_none (h : RejectsInTurn ask request routes s t) :
    selectRemembering ask routes request s =
      (.error (.noRouteMatched request.method request.uri), t) := by
  have hfrom := selectRememberingFrom_of_rejects h 0 []
  rw [List.append_nil] at hfrom
  rw [selectRemembering, hfrom]
  rfl

theorem selectRemembering_eq_ok_iff :
    selectRemembering ask routes request s = (.ok (i, r), u) ↔
      ∃ before after t, routes = before ++ r :: after ∧ before.length = i ∧
        RejectsInTurn ask request before s t ∧ ask r.condition request t = (true, u) := by
  constructor
  · intro h
    rcases rejectsInTurn_or_first ask request routes s with
      ⟨t, hnone⟩ | ⟨before, q, after, t, v, rfl, hbefore, hq⟩
    · cases (selectRemembering_of_none hnone).symm.trans h
    · cases (selectRemembering_of_first hbefore hq after).symm.trans h
      exact ⟨before, after, t, rfl, rfl, hbefore, hq⟩
  · rintro ⟨before, after, t, rfl, rfl, hbefore, hr⟩
    exact selectRemembering_of_first hbefore hr after

theorem selectRemembering_eq_error_iff {e : PipelineError} :
    selectRemembering ask routes request s = (.error e, t) ↔
      RejectsInTurn ask request routes s t ∧ e = .noRouteMatched request.method request.uri := by
  constructor
  · intro h
    rcases rejectsInTurn_or_first ask request routes s with
      ⟨u, hnone⟩ | ⟨before, q, after, u, v, rfl, hbefore, hq⟩
    · cases (selectRemembering_of_none hnone).symm.trans h
      exact ⟨hnone, rfl⟩
    · cases (selectRemembering_of_first hbefore hq after).symm.trans h
  · rintro ⟨hnone, rfl⟩
    exact selectRemembering_of_none hnone

theorem rejectsInTurn_recording (h : ∀ q ∈ routes, evaluate q.condition request = false)
    (asked : List Condition) :
    RejectsInTurn evaluate.recording request routes asked
      (asked ++ routes.map (·.condition)) := by
  induction routes generalizing asked with
  | nil =>
      rw [List.map_nil, List.append_nil]
      exact .nil asked
  | cons q routes ih =>
      obtain ⟨hq, h⟩ := List.forall_mem_cons.mp h
      refine .cons (t := asked ++ [q.condition]) (by rw [Evaluator.recording, hq]) ?_
      simpa using ih h (asked ++ [q.condition])

/-- Without a memory, what is left in the end are the questions. -/
theorem selectRemembering_recording (evaluate : Evaluator) (routes : List Route)
    (request : Request) :
    selectRemembering evaluate.recording routes request [] =
      ((select evaluate routes request).answer, (select evaluate routes request).asked) := by
  rcases first_or_none evaluate request routes with hnone | ⟨before, r, after, rfl, hfirst⟩
  · rw [answer_select_of_none hnone, asked_select_of_none hnone]
    exact selectRemembering_of_none (rejectsInTurn_recording hnone [])
  · rw [answer_select_of_first hfirst, asked_select_of_first hfirst, List.map_append]
    exact selectRemembering_of_first (rejectsInTurn_recording hfirst.rejected [])
      (by rw [Evaluator.recording, hfirst.accepted]; rfl) after

end Remembering

/-- A route is taken exactly when its condition is accepted and those of all routes before it are
rejected, and then asked about are the routes up to it, once each and in order. There is none
exactly when the conditions of all routes are rejected, each asked about once, and the error has the
method and the URI of the request. An evaluator that answers these questions in the same way gives
the same result. With an evaluator that remembers, the same holds of the answers that it gives in
turn, and what it remembers in the end is what these questions have left, and no other. -/
theorem select_asks_up_to_first (evaluate : Evaluator) (routes : List Route) (request : Request) :
    let result := select evaluate routes request
    (∀ i r, result.answer = .ok (i, r) ↔
      routes[i]? = some r ∧ evaluate r.condition request = true ∧
        ∀ q ∈ routes.take i, evaluate q.condition request = false) ∧
    (∀ i r, result.answer = .ok (i, r) →
      result.asked = (routes.take (i + 1)).map (·.condition)) ∧
    (∀ e, result.answer = .error e ↔
      (∀ q ∈ routes, evaluate q.condition request = false) ∧
        e = .noRouteMatched request.method request.uri) ∧
    (∀ e, result.answer = .error e → result.asked = routes.map (·.condition)) ∧
    (∀ evaluate' : Evaluator, (∀ c ∈ result.asked, evaluate' c request = evaluate c request) →
      select evaluate' routes request = result) ∧
    selectRemembering evaluate.recording routes request [] = (result.answer, result.asked) ∧
    ∀ (σ : Type) (ask : RememberingEvaluator σ) (s u : σ),
      (∀ i r, selectRemembering ask routes request s = (.ok (i, r), u) ↔
        routes[i]? = some r ∧ ∃ t, RejectsInTurn ask request (routes.take i) s t ∧
          ask r.condition request t = (true, u)) ∧
      ∀ e, selectRemembering ask routes request s = (.error e, u) ↔
        RejectsInTurn ask request routes s u ∧
          e = .noRouteMatched request.method request.uri := by
  intro result
  refine ⟨fun i r => ?_, fun i r h => ?_, fun e => answer_select_eq_error_iff, fun e h => ?_,
    fun _ => select_congr, selectRemembering_recording evaluate routes request,
    fun σ ask s u => ⟨fun i r => ?_, fun e => selectRemembering_eq_error_iff⟩⟩
  · rw [answer_select_eq_ok_iff, getElem?_eq_some_iff_append]
    constructor
    · rintro ⟨before, after, rfl, rfl, hfirst⟩
      rw [List.take_left]
      exact ⟨⟨before, after, rfl, rfl⟩, hfirst.accepted, hfirst.rejected⟩
    · rintro ⟨⟨before, after, rfl, rfl⟩, haccepted, hrejected⟩
      rw [List.take_left] at hrejected
      exact ⟨before, after, rfl, rfl, hrejected, haccepted⟩
  · obtain ⟨before, after, rfl, rfl, hfirst⟩ := answer_select_eq_ok_iff.mp h
    have htake : (before ++ r :: after).take (before.length + 1) = before ++ [r] := by
      rw [List.append_cons, List.take_left' (by simp)]
    rw [htake]
    exact asked_select_of_first hfirst after
  · exact asked_select_of_none (answer_select_eq_error_iff.mp h).1
  · rw [selectRemembering_eq_ok_iff, getElem?_eq_some_iff_append]
    constructor
    · rintro ⟨before, after, t, rfl, rfl, hbefore, hr⟩
      rw [List.take_left]
      exact ⟨⟨before, after, rfl, rfl⟩, t, hbefore, hr⟩
    · rintro ⟨⟨before, after, rfl, rfl⟩, t, hbefore, hr⟩
      rw [List.take_left] at hbefore
      exact ⟨before, after, t, rfl, rfl, hbefore, hr⟩

end Route

end StageRelay
