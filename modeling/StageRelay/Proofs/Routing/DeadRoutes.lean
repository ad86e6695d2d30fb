import StageRelay.Proofs.Routing.Judgement
import StageRelay.Proofs.Routing.Report
import StageRelay.Proofs.Routing.Selection

/-!
# Routes reported as dead

The check of a configuration reports a route if an earlier one is unconditional, or if its
own condition is unsatisfiable. Both are judged by structure, and rightly so: no request
takes such a route. So the configuration without these routes plans every request as the
one with them, for the same route with the same queue. The positions of the routes change,
and with them the labels of routes that have no name.
-/

namespace StageRelay

/-- Whether an issue says of a route that it takes no request: either its own condition holds for
none, or an earlier route takes them all. -/
def Issue.saysDead : Issue → Bool
  | .unreachable .. | .neverMatches _ => true
  | .noRoutes | .unknownExtension .. | .noCatchAll | .notHttp .. | .emptyRouting _
  | .unreferenced _ | .emptyQueueStatus _ => false

namespace Config

/-- Whether the route at a position is reported as dead. -/
def reportsDead (c : Config) (index : Nat) : Bool := (c.issuesAt index).any Issue.saysDead

/-- The configuration without the routes that are reported as dead. The others keep their order, but
not their positions. -/
def withoutDeadRoutes (c : Config) : Config :=
  { c with routes := (c.routes.zipIdx.filter fun r => !c.reportsDead r.2).map Prod.fst }

/-- The position that a route takes among those that are not reported as dead. -/
def livePosition (c : Config) (index : Nat) : Nat :=
  (List.range index).countP fun i => !c.reportsDead i

variable {c : Config} {before after : List Route} {r : Route} {request : Request}

/-! ## The report -/

/-- The check reports routes as dead position by position. -/
theorem filter_saysDead_issues (c : Config) :
    c.issues.filter Issue.saysDead =
      (List.range c.routes.length).flatMap fun i => (c.issuesAt i).filter Issue.saysDead := by
  have hextension : ∀ (name : String) (e : Extension),
      (extensionIssues c.routes name e).filter Issue.saysDead = [] := by
    intro name e
    simp only [extensionIssues, List.filter_append]
    split <;> split <;> split <;> rfl
  have hother : ∀ (p : Bool) (issue : Issue), issue.saysDead = false →
      (if p then [issue] else []).filter Issue.saysDead = [] := by
    intro p issue hissue
    cases p <;> simp [hissue]
  have hstatus : (if RoutingTable.isListable c.pipeline.emptyQueueStatus then []
      else [Issue.emptyQueueStatus c.pipeline.emptyQueueStatus]).filter Issue.saysDead = [] := by
    split <;> rfl
  simp only [issues_eq, List.filter_append, List.filter_flatMap, hextension,
    hother _ .noRoutes rfl, hother _ .noCatchAll rfl, hstatus, List.nil_append, List.append_nil,
    List.flatMap_eq_nil_iff.mpr fun _ _ => rfl]

private theorem any_saysDead_routeIssues (extensions : SortedMap String Extension) (index : Nat)
    (catchAll : Option String) (r : Route) :
    (routeIssues extensions index catchAll r).any Issue.saysDead =
      (catchAll.isSome || r.condition.isUnsatisfiable) := by
  have hstages : (r.stages.filterMap fun s => if extensions.contains s.name then none
      else some (Issue.unknownExtension (r.label index) s.name)).any Issue.saysDead = false := by
    rw [List.any_eq_false]
    intro issue hissue
    obtain ⟨s, -, hs⟩ := List.mem_filterMap.mp hissue
    split at hs
    · cases hs
    · obtain rfl := Option.some.inj hs
      simp [Issue.saysDead]
  rw [routeIssues, List.any_append, List.any_append, hstages, Bool.or_false]
  cases catchAll <;> cases r.condition.isUnsatisfiable <;> rfl

/-- A route is reported as dead exactly when one before it is unconditional or its own
condition is unsatisfiable. -/
theorem reportsDead_iff (h : c.routes = before ++ r :: after) :
    c.reportsDead before.length = true ↔
      (∃ q ∈ before, q.condition.isUnconditional = true) ∨
        r.condition.isUnsatisfiable = true := by
  rw [reportsDead, issuesAt_of_eq_append h, any_saysDead_routeIssues, Bool.or_eq_true,
    isSome_catchAll?_iff]

/-- The route that a request takes is not reported as dead. It holds for the request, and no route
before it takes every request. -/
theorem not_reportsDead_of_first (h : c.routes = before ++ r :: after)
    (hfirst : r.IsFirst .standard request before) : c.reportsDead before.length = false := by
  rw [← Bool.not_eq_true, reportsDead_iff h]
  rintro (⟨q, hq, hall⟩ | hnone)
  · have hholds : q.condition.holds request = true :=
      Condition.holds_of_isUnconditional hall request
    have hrejected : q.condition.holds request = false := hfirst.rejected q hq
    rw [hholds] at hrejected
    cases hrejected
  · have hfails : r.condition.holds request = false :=
      Condition.not_holds_of_isUnsatisfiable hnone request
    have haccepted : r.condition.holds request = true := hfirst.accepted
    rw [hfails] at haccepted
    cases haccepted

/-! ## The routes that are left -/

theorem mem_of_mem_withoutDeadRoutes (h : r ∈ c.withoutDeadRoutes.routes) : r ∈ c.routes := by
  obtain ⟨p, hp, rfl⟩ := List.mem_map.mp h
  exact List.fst_mem_of_mem_zipIdx (List.mem_filter.mp hp).1

/-- A route that is not reported as dead is left, behind those before it that are left. -/
theorem exists_withoutDeadRoutes_eq_append (h : c.routes = before ++ r :: after)
    (hlive : c.reportsDead before.length = false) :
    ∃ before' after', c.withoutDeadRoutes.routes = before' ++ r :: after' ∧
      before'.length = c.livePosition before.length ∧ ∀ q ∈ before', q ∈ before := by
  refine ⟨(before.zipIdx.filter fun r => !c.reportsDead r.2).map Prod.fst,
    ((after.zipIdx (before.length + 1)).filter fun r => !c.reportsDead r.2).map Prod.fst,
    ?_, ?_, ?_⟩
  · rw [withoutDeadRoutes, h]
    simp [List.zipIdx_append, hlive]
  · rw [List.length_map, ← List.countP_eq_length_filter, livePosition, List.range_eq_range',
      ← List.zipIdx_map_snd 0 before, List.countP_map]
    rfl
  · intro q hq
    obtain ⟨p, hp, rfl⟩ := List.mem_map.mp hq
    exact List.fst_mem_of_mem_zipIdx (List.mem_filter.mp hp).1

/-- Routes that are reported as dead are dead. The report names them position by
position: those behind an unconditional route, and those whose condition is unsatisfiable.
No request takes one of them, and the configuration without them plans each request as
the one with them: either none has a route, or both take the same one with the same queue
or with the same unknown extension, at the position that is left to it. -/
theorem plan_withoutDeadRoutes (c : Config) :
    c.issues.filter Issue.saysDead =
        (List.range c.routes.length).flatMap
          (fun i => (c.issuesAt i).filter Issue.saysDead) ∧
      (∀ before r after, c.routes = before ++ r :: after →
        (c.reportsDead before.length = true ↔
          (∃ q ∈ before, q.condition.isUnconditional = true) ∨
            r.condition.isUnsatisfiable = true)) ∧
      ∀ request : Request,
        let select := fun c : Config => (Route.select .standard c.routes request).answer
        let plan := fun c : Config => ((Pipeline.ofConfig c).plan .standard request).answer
        (∀ index r, select c = .ok (index, r) → c.reportsDead index = false) ∧
        ((plan c = .error (.noRouteMatched request.method request.uri) ∧
            plan c.withoutDeadRoutes = .error (.noRouteMatched request.method request.uri)) ∨
          ∃ index r,
            select c = .ok (index, r) ∧
            select c.withoutDeadRoutes = .ok (c.livePosition index, r) ∧
            plan c = r.planAt index (Stage.queue? .standard c.registry request r.stages) ∧
            plan c.withoutDeadRoutes =
              r.planAt (c.livePosition index)
                (Stage.queue? .standard c.registry request r.stages)) := by
  refine ⟨filter_saysDead_issues c, fun before r after h => reportsDead_iff h, ?_⟩
  intro request select plan
  rcases Route.first_or_none .standard request c.routes with
    hnone | ⟨before, r, after, h, hfirst⟩
  · have hnone' : ∀ q ∈ c.withoutDeadRoutes.routes,
        Evaluator.standard q.condition request = false :=
      fun q hq => hnone q (mem_of_mem_withoutDeadRoutes hq)
    refine ⟨?_, .inl ⟨Pipeline.answer_plan_of_none hnone, Pipeline.answer_plan_of_none hnone'⟩⟩
    intro index r hselect
    rw [show select c = _ from Route.answer_select_of_none hnone] at hselect
    cases hselect
  · have hlive := not_reportsDead_of_first h hfirst
    obtain ⟨before', after', h', hlength, hsubset⟩ := exists_withoutDeadRoutes_eq_append h hlive
    have hfirst' : r.IsFirst .standard request before' :=
      ⟨fun q hq => hfirst.rejected q (hsubset q hq), hfirst.accepted⟩
    have hselect : select c = .ok (before.length, r) := by
      show (Route.select .standard c.routes request).answer = _
      rw [h, Route.answer_select_of_first hfirst]
    have hselect' : select c.withoutDeadRoutes = .ok (c.livePosition before.length, r) := by
      show (Route.select .standard c.withoutDeadRoutes.routes request).answer = _
      rw [h', Route.answer_select_of_first hfirst', hlength]
    refine ⟨?_, .inr ⟨before.length, r, hselect, hselect',
      Pipeline.answer_plan_of_first h hfirst, ?_⟩⟩
    · intro index q hq
      rw [hselect, Except.ok.injEq, Prod.mk.injEq] at hq
      rw [← hq.1, hlive]
    · rw [← hlength]
      exact Pipeline.answer_plan_of_first h' hfirst'

end Config

end StageRelay
