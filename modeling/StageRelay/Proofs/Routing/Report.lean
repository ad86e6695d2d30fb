import StageRelay.Config.Issue

/-!
# What is reported about the routes

The check of a configuration goes through the routes and remembers the label of the first
one that takes every request. So what it reports about a route depends on the route, its
position and the routes before it. `Config.issuesAt` is the report about one position, and
by `Config.issues_eq` the check lists these reports in the order of the routes, whatever
else it finds.
-/

namespace StageRelay.Config

/-- The label of the first of some routes that is unconditional; each stands with its
position. -/
def catchAll? (routes : List (Route × Nat)) : Option String :=
  (routes.find? (·.1.condition.isUnconditional)).map fun r => r.1.label r.2

def issuesAt (c : Config) (index : Nat) : List Issue :=
  match c.routes[index]? with
  | some r => routeIssues c.extensions index (catchAll? (c.routes.take index).zipIdx) r
  | none => []

variable {c : Config} {before after : List Route} {r : Route}

theorem issuesAt_of_eq_append (h : c.routes = before ++ r :: after) :
    c.issuesAt before.length =
      routeIssues c.extensions before.length (catchAll? before.zipIdx) r := by
  simp [issuesAt, h]

theorem catchAll?_zipIdx_concat (before : List Route) (r : Route) :
    catchAll? (before ++ [r]).zipIdx =
      if r.condition.isUnconditional then
        (catchAll? before.zipIdx).or (some (r.label before.length))
      else catchAll? before.zipIdx := by
  rw [List.zipIdx_append, catchAll?, List.find?_append, catchAll?]
  cases before.zipIdx.find? (·.1.condition.isUnconditional) with
  | some found => simp
  | none => cases hr : r.condition.isUnconditional <;> simp [hr]

/-- There is a catch-all among some routes exactly when one of them is unconditional. -/
theorem isSome_catchAll?_iff :
    (catchAll? before.zipIdx).isSome = true ↔
      ∃ r ∈ before, r.condition.isUnconditional = true := by
  rw [catchAll?, Option.isSome_map, List.find?_isSome]
  constructor
  · rintro ⟨⟨r, index⟩, hr, h⟩
    exact ⟨r, List.fst_mem_of_mem_zipIdx hr, h⟩
  · rintro ⟨r, hr, h⟩
    rw [← List.zipIdx_map_fst 0 before, List.mem_map] at hr
    obtain ⟨p, hp, rfl⟩ := hr
    exact ⟨p, hp, h⟩

/-- From a position on, the routes are reported on one by one, and the catch-all of all
routes is found. -/
theorem routesIssues_of_append (before rest : List Route) (h : c.routes = before ++ rest) :
    routesIssues c.extensions before.length (catchAll? before.zipIdx) rest =
      ((List.range' before.length rest.length).flatMap c.issuesAt,
        catchAll? c.routes.zipIdx) := by
  induction rest generalizing before with
  | nil =>
      rw [List.append_nil] at h
      rw [h]
      rfl
  | cons r rest ih =>
      have hnext := ih (before ++ [r]) (by simp [h])
      rw [List.length_append, List.length_singleton, catchAll?_zipIdx_concat] at hnext
      rw [routesIssues, hnext, List.length_cons, List.range'_succ, List.flatMap_cons,
        issuesAt_of_eq_append h]

/-- The issues of a configuration, with those about its routes listed by position. -/
theorem issues_eq (c : Config) :
    c.issues =
      (if c.routes.isEmpty then [.noRoutes] else []) ++
        (List.range c.routes.length).flatMap c.issuesAt ++
        (if !c.routes.isEmpty && (catchAll? c.routes.zipIdx).isNone then [.noCatchAll]
          else []) ++
        (c.extensions.toList.flatMap fun e => extensionIssues c.routes e.1 e.2) ++
        (if RoutingTable.isListable c.pipeline.emptyQueueStatus then []
          else [.emptyQueueStatus c.pipeline.emptyQueueStatus]) := by
  have hroutes : routesIssues c.extensions 0 none c.routes = _ :=
    routesIssues_of_append [] c.routes rfl
  rw [issues, hroutes, List.range_eq_range']
  rfl

end StageRelay.Config
