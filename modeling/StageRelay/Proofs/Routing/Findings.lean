import StageRelay.Proofs.Routing.Judgement
import StageRelay.Proofs.Routing.Report
import StageRelay.Proofs.Routing.Selection

/-!
# When an issue is reported

`Config.Finding` says of each issue when it is one, by what the configuration holds and not
by how the check goes through it. By `Config.mem_issues_iff` the check reports exactly these
findings.

A route that takes every request is the only thing that keeps the check from warning of
requests without a route. So if it does not warn, every request has one.
-/

namespace StageRelay.Config

/-- An issue that a configuration has, with the reason for it. There is one constructor for each
kind of issue. -/
inductive Finding (c : Config) : Issue → Prop where
  | noRoutes (h : c.routes = []) : Finding c .noRoutes
  | unreachable {before after : List Route} {r : Route} {earlier : String}
      (h : c.routes = before ++ r :: after) (he : catchAll? before.zipIdx = some earlier) :
      Finding c (.unreachable (r.label before.length) earlier)
  | neverMatches {before after : List Route} {r : Route} (h : c.routes = before ++ r :: after)
      (hr : r.condition.isUnsatisfiable = true) :
      Finding c (.neverMatches (r.label before.length))
  | unknownExtension {before after : List Route} {r : Route} {s : StageRef}
      (h : c.routes = before ++ r :: after) (hs : s ∈ r.stages)
      (hn : c.extensions.get? s.name = none) :
      Finding c (.unknownExtension (r.label before.length) s.name)
  | noCatchAll (hne : c.routes ≠ [])
      (h : ∀ r ∈ c.routes, r.condition.isUnconditional = false) : Finding c .noCatchAll
  | notHttp {name : String} {e : Extension} (h : c.extensions.get? name = some e)
      (hu : isHttp e.service.uri = false) : Finding c (.notHttp name e.service.uri)
  | emptyRouting {name : String} {e : Extension} (h : c.extensions.get? name = some e)
      (he : e.routing.isEmpty = true) : Finding c (.emptyRouting name)
  | unreferenced {name : String} {e : Extension} (h : c.extensions.get? name = some e)
      (hr : isReferenced c.routes name = false) : Finding c (.unreferenced name)
  | emptyQueueStatus (h : RoutingTable.isListable c.pipeline.emptyQueueStatus = false) :
      Finding c (.emptyQueueStatus c.pipeline.emptyQueueStatus)

variable {c : Config} {issue : Issue}

/-! ## The parts of the report -/

theorem mem_routeIssues_iff {extensions : SortedMap String Extension} {index : Nat}
    {catchAll : Option String} {r : Route} :
    issue ∈ routeIssues extensions index catchAll r ↔
      (∃ earlier, catchAll = some earlier ∧ issue = .unreachable (r.label index) earlier) ∨
        (r.condition.isUnsatisfiable = true ∧ issue = .neverMatches (r.label index)) ∨
        ∃ s ∈ r.stages, extensions.get? s.name = none ∧
          issue = .unknownExtension (r.label index) s.name := by
  have hstages : issue ∈ (r.stages.filterMap fun s => if extensions.contains s.name then none
      else some (Issue.unknownExtension (r.label index) s.name)) ↔
      ∃ s ∈ r.stages, extensions.get? s.name = none ∧
        issue = .unknownExtension (r.label index) s.name := by
    simp only [List.mem_filterMap, SortedMap.contains]
    refine exists_congr fun s => and_congr_right fun _ => ?_
    by_cases hs : extensions.get? s.name = none
    · simp [hs, eq_comm]
    · simp [hs, Option.isSome_iff_ne_none.mpr hs]
  rw [routeIssues, List.mem_append, List.mem_append, hstages, or_assoc]
  cases catchAll <;> cases r.condition.isUnsatisfiable <;> simp

theorem mem_extensionIssues_iff {routes : List Route} {name : String} {e : Extension} :
    issue ∈ extensionIssues routes name e ↔
      (isHttp e.service.uri = false ∧ issue = .notHttp name e.service.uri) ∨
        (e.routing.isEmpty = true ∧ issue = .emptyRouting name) ∨
        (isReferenced routes name = false ∧ issue = .unreferenced name) := by
  rw [extensionIssues, List.mem_append, List.mem_append, or_assoc]
  cases isHttp e.service.uri <;> cases e.routing.isEmpty <;> cases isReferenced routes name <;>
    simp

/-- The report about the routes is about one of them, wherever it stands. -/
theorem exists_mem_issuesAt_iff :
    (∃ index ∈ List.range c.routes.length, issue ∈ c.issuesAt index) ↔
      ∃ before r after, c.routes = before ++ r :: after ∧
        issue ∈ routeIssues c.extensions before.length (catchAll? before.zipIdx) r := by
  constructor
  · rintro ⟨index, hindex, hissue⟩
    obtain ⟨before, after, h, rfl⟩ :=
      getElem?_eq_some_iff_append.mp (List.getElem?_eq_getElem (List.mem_range.mp hindex))
    rw [issuesAt_of_eq_append h] at hissue
    exact ⟨before, _, after, h, hissue⟩
  · rintro ⟨before, r, after, h, hissue⟩
    refine ⟨before.length, ?_, ?_⟩
    · rw [List.mem_range, h, List.length_append, List.length_cons]
      omega
    · rw [issuesAt_of_eq_append h]
      exact hissue

theorem catchAll?_eq_none_iff {routes : List Route} :
    catchAll? routes.zipIdx = none ↔ ∀ r ∈ routes, r.condition.isUnconditional = false := by
  rw [← Option.not_isSome_iff_eq_none, isSome_catchAll?_iff]
  simp

theorem noCatchAll_iff :
    (!c.routes.isEmpty && (catchAll? c.routes.zipIdx).isNone) = true ↔
      c.routes ≠ [] ∧ ∀ r ∈ c.routes, r.condition.isUnconditional = false := by
  rw [Bool.and_eq_true, Option.isNone_iff_eq_none, catchAll?_eq_none_iff, Bool.not_eq_true',
    List.isEmpty_eq_false_iff]

theorem mem_issues_iff_parts :
    issue ∈ c.issues ↔
      (c.routes = [] ∧ issue = .noRoutes) ∨
        (∃ before r after, c.routes = before ++ r :: after ∧
          issue ∈ routeIssues c.extensions before.length (catchAll? before.zipIdx) r) ∨
        ((c.routes ≠ [] ∧ ∀ r ∈ c.routes, r.condition.isUnconditional = false) ∧
          issue = .noCatchAll) ∨
        (∃ name e, c.extensions.get? name = some e ∧
          issue ∈ extensionIssues c.routes name e) ∨
        (RoutingTable.isListable c.pipeline.emptyQueueStatus = false ∧
          issue = .emptyQueueStatus c.pipeline.emptyQueueStatus) := by
  have hroutes : (c.routes.isEmpty = true) = (c.routes = []) := propext List.isEmpty_iff
  have hextensions : (∃ entry ∈ c.extensions.toList,
      issue ∈ extensionIssues c.routes entry.1 entry.2) ↔
      ∃ name e, c.extensions.get? name = some e ∧ issue ∈ extensionIssues c.routes name e := by
    simp only [SortedMap.get?_eq_some_iff, Prod.exists]
  rw [issues_eq]
  simp only [List.mem_append, List.mem_flatMap, exists_mem_issuesAt_iff, hextensions,
    List.mem_ite_nil_left, List.mem_ite_nil_right, List.mem_singleton, hroutes, noCatchAll_iff,
    Bool.not_eq_true, or_assoc]

/-- The check reports what is to be found, and nothing else. The order of the report is another
matter. -/
theorem mem_issues_iff : issue ∈ c.issues ↔ c.Finding issue := by
  rw [mem_issues_iff_parts]
  constructor
  · rintro (⟨h, rfl⟩ | ⟨before, r, after, hr, h⟩ | ⟨h, rfl⟩ | ⟨name, e, he, h⟩ | ⟨h, rfl⟩)
    · exact .noRoutes h
    · rcases mem_routeIssues_iff.mp h with ⟨earlier, hc, rfl⟩ | ⟨hd, rfl⟩ | ⟨s, hs, hn, rfl⟩
      · exact .unreachable hr hc
      · exact .neverMatches hr hd
      · exact .unknownExtension hr hs hn
    · exact .noCatchAll h.1 h.2
    · rcases mem_extensionIssues_iff.mp h with ⟨hu, rfl⟩ | ⟨ht, rfl⟩ | ⟨hr, rfl⟩
      · exact .notHttp he hu
      · exact .emptyRouting he ht
      · exact .unreferenced he hr
    · exact .emptyQueueStatus h
  · intro h
    cases h with
    | noRoutes h => exact .inl ⟨h, rfl⟩
    | unreachable h hc =>
        exact .inr (.inl ⟨_, _, _, h, mem_routeIssues_iff.mpr (.inl ⟨_, hc, rfl⟩)⟩)
    | neverMatches h hd =>
        exact .inr (.inl ⟨_, _, _, h, mem_routeIssues_iff.mpr (.inr (.inl ⟨hd, rfl⟩))⟩)
    | unknownExtension h hs hn =>
        exact .inr (.inl ⟨_, _, _, h, mem_routeIssues_iff.mpr (.inr (.inr ⟨_, hs, hn, rfl⟩))⟩)
    | noCatchAll hne h => exact .inr (.inr (.inl ⟨⟨hne, h⟩, rfl⟩))
    | notHttp h hu =>
        exact .inr (.inr (.inr (.inl ⟨_, _, h, mem_extensionIssues_iff.mpr (.inl ⟨hu, rfl⟩)⟩)))
    | emptyRouting h ht =>
        exact .inr (.inr (.inr (.inl
          ⟨_, _, h, mem_extensionIssues_iff.mpr (.inr (.inl ⟨ht, rfl⟩))⟩)))
    | unreferenced h hr =>
        exact .inr (.inr (.inr (.inl
          ⟨_, _, h, mem_extensionIssues_iff.mpr (.inr (.inr ⟨hr, rfl⟩))⟩)))
    | emptyQueueStatus h => exact .inr (.inr (.inr (.inr ⟨h, rfl⟩)))

/-! ## Requests without a route -/

variable {request : Request}

/-- A request that all routes reject is one that the check has warned of. -/
theorem warned_of_rejected
    (h : ∀ r ∈ c.routes, Evaluator.standard r.condition request = false) :
    .noRoutes ∈ c.issues ∨ .noCatchAll ∈ c.issues := by
  by_cases hroutes : c.routes = []
  · exact .inl (mem_issues_iff.mpr (.noRoutes hroutes))
  · refine .inr (mem_issues_iff.mpr (.noCatchAll hroutes fun r hr => ?_))
    rw [← Bool.not_eq_true]
    intro hall
    have hholds : Evaluator.standard r.condition request = true :=
      Condition.holds_of_isUnconditional hall request
    rw [h r hr] at hholds
    cases hholds

/-- If no route is planned for a request, the check warns of that: it says that there are no
routes, or that none of them takes every request. So where it says neither, every request is
planned for some route of the table. -/
theorem plan_noRouteMatched_warned (c : Config) (request : Request) :
    let plan := ((Pipeline.ofConfig c).plan .standard request).answer
    (∀ method uri, plan = .error (.noRouteMatched method uri) →
      .noRoutes ∈ c.issues ∨ .noCatchAll ∈ c.issues) ∧
    (.noRoutes ∉ c.issues → .noCatchAll ∉ c.issues →
      ∃ before r after, c.routes = before ++ r :: after ∧
        (Route.select .standard c.routes request).answer = .ok (before.length, r) ∧
        plan = r.planAt before.length
          (Stage.queue? .standard c.registry request r.stages)) := by
  intro plan
  rcases Route.first_or_none .standard request c.routes with
    hnone | ⟨before, r, after, h, hfirst⟩
  · have hwarned := warned_of_rejected hnone
    refine ⟨fun _ _ _ => hwarned, fun hroutes hcatchAll => ?_⟩
    rcases hwarned with hissue | hissue
    · exact absurd hissue hroutes
    · exact absurd hissue hcatchAll
  · have hplan : plan = r.planAt before.length _ :=
      Pipeline.answer_plan_of_first (p := Pipeline.ofConfig c) h hfirst
    refine ⟨?_, fun _ _ => ⟨before, r, after, h, ?_, hplan⟩⟩
    · intro method uri hn
      rw [hplan] at hn
      cases hq : Stage.queue? .standard (Pipeline.ofConfig c).registry request r.stages with
      | ok queue => rw [hq] at hn; cases hn
      | error name => rw [hq] at hn; cases hn
    · rw [h, Route.answer_select_of_first hfirst]

/-- A table whose only route asks for a payload has none for a request without one, and the
check has warned of that. -/
theorem plan_noRouteMatched_warned_hasPayload :
    let c : Config := { (default : Config) with routes := [⟨none, .hasPayload, []⟩] }
    ((Pipeline.ofConfig c).plan .standard (Request.make "GET" "/")).answer =
        .error (.noRouteMatched "GET" "/") ∧
      (.noRoutes ∈ c.issues ∨ .noCatchAll ∈ c.issues) := by
  intro c
  have hplan : ((Pipeline.ofConfig c).plan .standard (Request.make "GET" "/")).answer =
      .error (.noRouteMatched "GET" "/") := by decide
  exact ⟨hplan, (plan_noRouteMatched_warned c (Request.make "GET" "/")).1 _ _ hplan⟩

end StageRelay.Config
