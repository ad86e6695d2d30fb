import Mathlib.Data.List.Basic
import StageRelay.CommandLine.Execute
import StageRelay.Proofs.Lists
import StageRelay.Proofs.Routing.Findings

/-!
# The issues that are due

The check of a configuration goes once through the routes and remembers what it has seen.
`Config.due` says without a memory which issues are to be listed, and in which order: each issue has
a cause, which may be about the routes before one or about all routes, and it stands in its place
exactly if there is that cause. By `Config.issues_eq_due` the check lists these issues. The command
that checks a configuration fails if one of them is an error, and then says how many errors and how
many warnings there are.
-/

namespace StageRelay

def Issue.dueTo (issue : Issue) (cause : Prop) [Decidable cause] : List Issue :=
  if cause then [issue] else []

namespace Config

/-- The route at a position takes every request, and none of those before it does. -/
def IsFirstCatchAll (routes : List Route) (r : Route × Nat) : Prop :=
  r.1.condition.isUnconditional = true ∧
    ∀ q ∈ routes.take r.2, q.condition.isUnconditional = false

instance (routes : List Route) (r : Route × Nat) : Decidable (IsFirstCatchAll routes r) :=
  inferInstanceAs (Decidable (_ ∧ ∀ q ∈ routes.take r.2, q.condition.isUnconditional = false))

/-- What is due about a route because of those before it. -/
def dueToEarlier (before : List Route) (label : String) : List Issue :=
  before.zipIdx.flatMap fun q =>
    (Issue.unreachable label (q.1.label q.2)).dueTo (IsFirstCatchAll before q)

/-- What is due about a route that stands behind some others. -/
def dueToRoute (c : Config) (before : List Route) (r : Route) : List Issue :=
  let label := r.label before.length
  dueToEarlier before label ++
    (Issue.neverMatches label).dueTo (r.condition.isUnsatisfiable = true) ++
    r.stages.flatMap fun s =>
      (Issue.unknownExtension label s.name).dueTo (s.name ∉ c.extensions.keys)

/-- What is due about an extension under its key. -/
def dueToExtension (c : Config) (name : String) (e : Extension) : List Issue :=
  (Issue.notHttp name e.service.uri).dueTo
      (¬ "http://".toList <+: e.service.uri.toList ∧
        ¬ "https://".toList <+: e.service.uri.toList) ++
    (Issue.emptyRouting name).dueTo (e.routing.isEmpty = true) ++
    (Issue.unreferenced name).dueTo (∀ r ∈ c.routes, ∀ s ∈ r.stages, s.name ≠ name)

/-- All that is due about a configuration, in the order in which it is to be listed. Nothing in it
depends on how the issues are found. -/
def due (c : Config) : List Issue :=
  Issue.noRoutes.dueTo (c.routes = []) ++
    (c.routes.zipIdx.flatMap fun r => c.dueToRoute (c.routes.take r.2) r.1) ++
    Issue.noCatchAll.dueTo
      (c.routes ≠ [] ∧ ∀ r ∈ c.routes, r.condition.isUnconditional = false) ++
    (c.extensions.toList.flatMap fun e => c.dueToExtension e.1 e.2) ++
    (Issue.emptyQueueStatus c.pipeline.emptyQueueStatus).dueTo
      (¬ (100 ≤ c.pipeline.emptyQueueStatus ∧ c.pipeline.emptyQueueStatus ≤ 599))

variable {c : Config} {before earlier later : List Route} {q r : Route} {issue : Issue}
variable {label : String}

theorem dueTo_of {cause : Prop} [Decidable cause] (h : cause) : issue.dueTo cause = [issue] :=
  if_pos h

theorem dueTo_of_not {cause : Prop} [Decidable cause] (h : ¬ cause) : issue.dueTo cause = [] :=
  if_neg h

theorem dueTo_eq_ite {cause : Prop} [Decidable cause] {b : Bool} (h : b = true ↔ cause) :
    issue.dueTo cause = if b then [issue] else [] := by
  cases b with
  | true => exact dueTo_of (h.mp rfl)
  | false => exact dueTo_of_not (mt h.mpr nofun)

theorem dueTo_eq_ite_not {cause : Prop} [Decidable cause] {b : Bool} (h : b = false ↔ cause) :
    issue.dueTo cause = if b then [] else [issue] := by
  cases b with
  | true => exact dueTo_of_not (mt h.mpr nofun)
  | false => exact dueTo_of (h.mp rfl)

/-! ## What is due because of earlier routes -/

theorem not_isFirstCatchAll_of_mem (h : ∀ q ∈ before, q.condition.isUnconditional = false)
    {routes : List Route} {p : Route × Nat} (hp : p ∈ before.zipIdx) :
    ¬ IsFirstCatchAll routes p := by
  intro hfirst
  have hnot := h p.1 (List.fst_mem_of_mem_zipIdx hp)
  rw [hfirst.1] at hnot
  cases hnot

/-- Nothing is due if none of the earlier routes takes every request. -/
theorem dueToEarlier_of_none (h : ∀ q ∈ before, q.condition.isUnconditional = false) :
    dueToEarlier before label = [] :=
  List.flatMap_eq_nil_iff.mpr fun _ hp => dueTo_of_not (not_isFirstCatchAll_of_mem h hp)

/-- One warning is due if one of the earlier routes takes every request, and it names the first of
these. -/
theorem dueToEarlier_of_first (h : ∀ p ∈ earlier, p.condition.isUnconditional = false)
    (hq : q.condition.isUnconditional = true) :
    dueToEarlier (earlier ++ q :: later) label = [.unreachable label (q.label earlier.length)] := by
  have hfirst : IsFirstCatchAll (earlier ++ q :: later) (q, earlier.length) := by
    refine ⟨hq, ?_⟩
    rw [List.take_left]
    exact h
  have hlater : ∀ p ∈ later.zipIdx (earlier.length + 1),
      ¬ IsFirstCatchAll (earlier ++ q :: later) p := by
    intro p hp hpfirst
    -- the route that takes every request stands before this one
    have hmem : q ∈ (earlier ++ q :: later).take p.2 :=
      List.take_subset_take_left _ (List.le_snd_of_mem_zipIdx hp) (by simp [List.take_append])
    have hnot := hpfirst.2 q hmem
    rw [hq] at hnot
    cases hnot
  rw [dueToEarlier, List.zipIdx_append, List.flatMap_append, Nat.zero_add, List.zipIdx_cons,
    List.flatMap_cons, dueTo_of hfirst,
    List.flatMap_eq_nil_iff.mpr fun _ hp => dueTo_of_not (not_isFirstCatchAll_of_mem h hp),
    List.flatMap_eq_nil_iff.mpr fun p hp => dueTo_of_not (hlater p hp)]
  rfl

theorem catchAll?_of_first (h : ∀ p ∈ earlier, p.condition.isUnconditional = false)
    (hq : q.condition.isUnconditional = true) :
    catchAll? (earlier ++ q :: later).zipIdx = some (q.label earlier.length) := by
  have hnone : earlier.zipIdx.find? (·.1.condition.isUnconditional) = none :=
    Option.map_eq_none_iff.mp (catchAll?_eq_none_iff.mpr h)
  rw [catchAll?, List.zipIdx_append, List.find?_append, hnone, Nat.zero_add, List.zipIdx_cons,
    List.find?_cons, hq]
  rfl

theorem dueToEarlier_eq (before : List Route) (label : String) :
    ((catchAll? before.zipIdx).map fun earlier => Issue.unreachable label earlier).toList =
      dueToEarlier before label := by
  rcases forall_or_first (fun r : Route => r.condition.isUnconditional = false) before with
    hnone | ⟨earlier, q, later, rfl, hearlier, hq⟩
  · rw [catchAll?_eq_none_iff.mpr hnone, dueToEarlier_of_none hnone]
    rfl
  · have hq := eq_true_of_ne_false hq
    rw [catchAll?_of_first hearlier hq, dueToEarlier_of_first hearlier hq]
    rfl

/-! ## The parts of the list -/

theorem contains_eq_false_iff {extensions : SortedMap String Extension} {name : String} :
    extensions.contains name = false ↔ name ∉ extensions.keys := by
  rw [SortedMap.contains, Option.isSome_eq_false_iff, Option.isNone_iff_eq_none,
    SortedMap.get?_eq_none_iff]

theorem routeIssues_eq_due (c : Config) (before : List Route) (r : Route) :
    routeIssues c.extensions before.length (catchAll? before.zipIdx) r = c.dueToRoute before r := by
  have hstages : (r.stages.filterMap fun s => if c.extensions.contains s.name then none
      else some (Issue.unknownExtension (r.label before.length) s.name)) =
      r.stages.flatMap fun s => (Issue.unknownExtension (r.label before.length) s.name).dueTo
        (s.name ∉ c.extensions.keys) := by
    rw [List.filterMap_eq_flatMap_toList]
    refine List.flatMap_congr fun s _ => ?_
    rw [dueTo_eq_ite_not contains_eq_false_iff]
    cases c.extensions.contains s.name <;> rfl
  rw [routeIssues, dueToRoute, ← dueToEarlier_eq, ← hstages]
  rfl

theorem issuesAt_eq_due {i : Nat} (hr : c.routes[i]? = some r) :
    c.issuesAt i = c.dueToRoute (c.routes.take i) r := by
  obtain ⟨before, after, hroutes, rfl⟩ := getElem?_eq_some_iff_append.mp hr
  rw [issuesAt_of_eq_append hroutes, routeIssues_eq_due, hroutes, List.take_left]

theorem isHttp_eq_false_iff {uri : String} :
    isHttp uri = false ↔
      ¬ "http://".toList <+: uri.toList ∧ ¬ "https://".toList <+: uri.toList := by
  rw [isHttp, Bool.or_eq_false_iff, Text.startsWith, Text.startsWith]
  simp only [← Bool.not_eq_true, List.isPrefixOf_iff_prefix]

theorem isReferenced_eq_false_iff {routes : List Route} {name : String} :
    isReferenced routes name = false ↔ ∀ r ∈ routes, ∀ s ∈ r.stages, s.name ≠ name := by
  simp [isReferenced]

theorem extensionIssues_eq_due (c : Config) (name : String) (e : Extension) :
    extensionIssues c.routes name e = c.dueToExtension name e := by
  rw [extensionIssues, dueToExtension, dueTo_eq_ite_not isHttp_eq_false_iff,
    dueTo_eq_ite_not isReferenced_eq_false_iff]
  rfl

/-- The check lists what is due, and nothing else. What is due is said route by route and extension
by extension, without carrying anything along. -/
theorem issues_eq_due (c : Config) : c.issues = c.due := by
  have hroutes : (List.range c.routes.length).flatMap c.issuesAt =
      c.routes.zipIdx.flatMap fun r => c.dueToRoute (c.routes.take r.2) r.1 := by
    rw [List.range_eq_range', ← List.zipIdx_map_snd, List.flatMap_map]
    exact List.flatMap_congr fun r hr => issuesAt_eq_due (List.mem_zipIdx_iff_getElem?.mp hr)
  have hextensions : (c.extensions.toList.flatMap fun e => extensionIssues c.routes e.1 e.2) =
      c.extensions.toList.flatMap fun e => c.dueToExtension e.1 e.2 :=
    List.flatMap_congr fun e _ => extensionIssues_eq_due c e.1 e.2
  have hstatus : RoutingTable.isListable c.pipeline.emptyQueueStatus = false ↔
      ¬ (100 ≤ c.pipeline.emptyQueueStatus ∧ c.pipeline.emptyQueueStatus ≤ 599) := by
    simp [RoutingTable.isListable]
  rw [issues_eq, due, dueTo_eq_ite List.isEmpty_iff, hroutes,
    dueTo_eq_ite noCatchAll_iff, hextensions, dueTo_eq_ite_not hstatus]

end Config

/-! ## The command that checks -/

namespace Issue

variable {issue : Issue} {issues : List Issue}

theorem severity_eq_error_iff :
    issue.severity = .error ↔
      (∃ route name, issue = .unknownExtension route name) ∨
        (∃ name uri, issue = .notHttp name uri) ∨ (∃ name, issue = .emptyRouting name) ∨
        ∃ status, issue = .emptyQueueStatus status := by
  cases issue <;> simp [severity]

/-- What is no error is a warning. -/
theorem not_isError_eq (issue : Issue) : (!issue.isError) = (issue.severity == .warning) := by
  rw [isError]
  cases issue.severity <;> rfl

theorem counts_eq (issues : List Issue) :
    counts issues =
      (issues.countP (·.severity == .error), issues.countP (·.severity == .warning)) := by
  rw [counts, show (fun issue : Issue => !issue.isError) = _ from funext not_isError_eq]
  rfl

theorem countP_error_eq_zero_iff :
    issues.countP (·.severity == .error) = 0 ↔ ¬ ∃ issue ∈ issues, issue.severity = .error := by
  simp [List.countP_eq_zero]

/-- Each issue has a line, and a verdict follows if none of them is an error. -/
theorem report_eq (issues : List Issue) :
    report issues = String.join (issues.map fun issue => issue.line ++ "\n") ++
      if issues.countP (·.severity == .error) ≠ 0 then ""
      else if issues.countP (·.severity == .warning) = 0 then "configuration ok\n"
      else s!"configuration ok ({issues.countP (·.severity == .warning)} warning(s))\n" := by
  rw [report, counts_eq]
  cases issues.countP (·.severity == .error) with
  | zero => cases issues.countP (·.severity == .warning) <;> rfl
  | succ errors => exact (String.append_empty).symm

end Issue

namespace CommandLine

theorem check_result_eq_error_iff {c : Config} {e : CommandError} :
    (check c).result = .error e ↔
      (∃ issue ∈ c.issues, issue.severity = .error) ∧
        e = .unsound (c.issues.countP (·.severity == .error))
          (c.issues.countP (·.severity == .warning)) := by
  rw [check, Issue.counts_eq]
  by_cases h : c.issues.countP (·.severity == .error) = 0
  · have hnone := Issue.countP_error_eq_zero_iff.mp h
    simp only [if_pos h]
    exact iff_of_false nofun fun herror => hnone herror.1
  · have hsome := not_not.mp (mt Issue.countP_error_eq_zero_iff.mpr h)
    simp only [if_neg h]
    exact ⟨fun he => ⟨hsome, (Except.error.inj he).symm⟩, fun he => congrArg Except.error he.2.symm⟩

/-- The check of a configuration lists what is due, in which each issue has its place and stands
there exactly if there is cause for it. A route is warned of for earlier ones exactly if one of them
takes every request, and then for the first such route. The command that checks prints a line for
each issue, fails exactly if one of them is an error, and gives the numbers of errors and
warnings. -/
theorem check_reports_due (c : Config) :
    let errors := c.issues.countP (·.severity == .error)
    let warnings := c.issues.countP (·.severity == .warning)
    c.issues = c.due ∧
    (∀ before label, (∀ q ∈ before, q.condition.isUnconditional = false) →
      Config.dueToEarlier before label = []) ∧
    (∀ earlier q later label, (∀ p ∈ earlier, p.condition.isUnconditional = false) →
      q.condition.isUnconditional = true →
      Config.dueToEarlier (earlier ++ q :: later) label =
        [.unreachable label (q.label earlier.length)]) ∧
    (∀ issue : Issue, issue.severity = .error ↔
      (∃ route name, issue = .unknownExtension route name) ∨
        (∃ name uri, issue = .notHttp name uri) ∨ (∃ name, issue = .emptyRouting name) ∨
        ∃ status, issue = .emptyQueueStatus status) ∧
    (∀ e, (check c).result = .error e ↔
      (∃ issue ∈ c.issues, issue.severity = .error) ∧ e = .unsound errors warnings) ∧
    (CommandError.unsound errors warnings).message =
      s!"configuration has {errors} error(s) and {warnings} warning(s)" ∧
    (check c).output = String.join (c.issues.map fun issue => issue.line ++ "\n") ++
      if errors ≠ 0 then ""
      else if warnings = 0 then "configuration ok\n"
      else s!"configuration ok ({warnings} warning(s))\n" := by
  intro errors warnings
  refine ⟨c.issues_eq_due, fun _ _ => Config.dueToEarlier_of_none,
    fun _ _ _ _ => Config.dueToEarlier_of_first, fun _ => Issue.severity_eq_error_iff,
    fun _ => check_result_eq_error_iff, rfl, Issue.report_eq c.issues⟩

end CommandLine

end StageRelay
