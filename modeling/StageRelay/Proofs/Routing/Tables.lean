import StageRelay.Pipeline.Run

/-!
# What a routing table directs

A routing table is known by its directives: one at most for each status, and one at most for all
statuses that are not listed. A step in the building of a table gives one of them and leaves the
others as they are, so the latest step for a status counts, steps for different statuses can be
taken in either order, and a status that no step lists has what the table listed before, or else
what is directed for all others.
-/

namespace StageRelay

namespace RoutingTable

/-! ## Tables by their directives -/

/-- The directive for a status, or for all statuses that are not listed. -/
def directive? (t : RoutingTable) : Option Status → Option Directive
  | none => t.wildcard
  | some s => t.get? s

def withEntry (t : RoutingTable) (o : Option Status) (d : Directive) : RoutingTable :=
  match o with
  | none => t.otherwise d
  | some s => t.on s d

variable {t u : RoutingTable} {o : Option Status} {d : Directive}

theorem ext_directive? (h : ∀ o, t.directive? o = u.directive? o) : t = u := by
  obtain ⟨exact, wildcard⟩ := t
  obtain ⟨exact', wildcard'⟩ := u
  obtain rfl : exact = exact' := SortedMap.ext_get? fun s => h (some s)
  obtain rfl : wildcard = wildcard' := h none
  rfl

theorem directive?_withEntry_self (t : RoutingTable) (o : Option Status) (d : Directive) :
    (t.withEntry o d).directive? o = some d := by
  cases o with
  | none => rfl
  | some s => exact SortedMap.get?_insert_self t.exact s d

theorem directive?_withEntry_of_ne (t : RoutingTable) {o o' : Option Status} (d : Directive)
    (h : o' ≠ o) : (t.withEntry o d).directive? o' = t.directive? o' := by
  cases o with
  | none =>
      cases o' with
      | none => exact absurd rfl h
      | some s => rfl
  | some s =>
      cases o' with
      | none => rfl
      | some s' => exact SortedMap.get?_insert_of_ne t.exact d fun heq => h (congrArg some heq)

theorem directive?_empty (o : Option Status) : empty.directive? o = none := by
  cases o <;> rfl

theorem resolve_eq (t : RoutingTable) (s : Status) :
    t.resolve s = (t.directive? (some s)).or (t.directive? none) := rfl

/-! ## Tables built step by step -/

/-- One step in the building of a table: a directive for a status, or for all statuses that are
not listed. -/
abbrev Step := Option Status × Directive

def after (t : RoutingTable) (steps : List Step) : RoutingTable :=
  steps.foldl (fun t step => t.withEntry step.1 step.2) t

/-- The directive of the latest step for a status, or for all statuses that are not listed. Earlier
steps for the same do not count. -/
def latest (o : Option Status) (steps : List Step) : Option Directive :=
  SortedMap.find? o steps.reverse

theorem after_append (t : RoutingTable) (steps more : List Step) :
    t.after (steps ++ more) = (t.after steps).after more := List.foldl_append

/-- The latest step for a status counts, and without one the table is as it was. -/
theorem directive?_after (t : RoutingTable) (steps : List Step) (o : Option Status) :
    (t.after steps).directive? o = (latest o steps).or (t.directive? o) := by
  induction steps generalizing t with
  | nil => rfl
  | cons step steps ih =>
      obtain ⟨o', d⟩ := step
      rw [latest, List.reverse_cons, SortedMap.find?_append]
      have hrest := ih (t.withEntry o' d)
      rw [latest] at hrest
      show ((t.withEntry o' d).after steps).directive? o = _
      rw [hrest]
      by_cases ho : o' = o
      · subst ho
        simp [SortedMap.find?, directive?_withEntry_self]
      · simp [SortedMap.find?, ho, directive?_withEntry_of_ne t d (Ne.symm ho)]

/-- The latest step for a status is the one after which none for it comes. -/
theorem latest_eq_some_iff {steps : List Step} :
    latest o steps = some d ↔
      ∃ earlier later, steps = earlier ++ (o, d) :: later ∧ ∀ step ∈ later, step.1 ≠ o := by
  rw [latest, SortedMap.find?_reverse_eq_some_iff]
  simp only [List.mem_map, not_exists, not_and, ne_eq]

theorem latest_eq_none_iff {steps : List Step} :
    latest o steps = none ↔ ∀ step ∈ steps, step.1 ≠ o := by
  rw [latest, SortedMap.find?_eq_none_iff, List.map_reverse, List.mem_reverse, List.mem_map]
  exact ⟨fun h step hmem ho => h ⟨step, hmem, ho⟩, fun h ⟨step, hmem, ho⟩ => h step hmem ho⟩

/-- Steps that are the directives of a table build the table, in whichever order they come. -/
theorem after_empty_of_mem_iff {steps : List Step}
    (h : ∀ o d, (o, d) ∈ steps ↔ t.directive? o = some d) : empty.after steps = t := by
  apply ext_directive?
  intro o
  rw [directive?_after, directive?_empty, Option.or_none]
  cases hlatest : latest o steps with
  | some d =>
      obtain ⟨earlier, later, rfl, -⟩ := latest_eq_some_iff.mp hlatest
      exact ((h o d).mp (List.mem_append_right _ List.mem_cons_self)).symm
  | none =>
      cases hentry : t.directive? o with
      | none => rfl
      | some d => exact absurd rfl (latest_eq_none_iff.mp hlatest (o, d) ((h o d).mpr hentry))

theorem withEntry_comm (t : RoutingTable) {o o' : Option Status} (d d' : Directive) (h : o ≠ o') :
    (t.withEntry o d).withEntry o' d' = (t.withEntry o' d').withEntry o d := by
  apply ext_directive?
  intro p
  by_cases ho : p = o
  · rw [ho, directive?_withEntry_of_ne _ d' h, directive?_withEntry_self,
      directive?_withEntry_self]
  · by_cases ho' : p = o'
    · rw [ho', directive?_withEntry_self, directive?_withEntry_of_ne _ d h.symm,
        directive?_withEntry_self]
    · simp only [directive?_withEntry_of_ne _ _ ho, directive?_withEntry_of_ne _ _ ho']

/-- Two steps in a row that are not for the same status can be taken in either order. -/
theorem after_swap (t : RoutingTable) (earlier later : List Step) {a b : Step} (h : a.1 ≠ b.1) :
    t.after (earlier ++ a :: b :: later) = t.after (earlier ++ b :: a :: later) := by
  rw [after_append, after_append]
  show (((t.after earlier).withEntry a.1 a.2).withEntry b.1 b.2).after later =
    (((t.after earlier).withEntry b.1 b.2).withEntry a.1 a.2).after later
  rw [withEntry_comm _ _ _ h]

end RoutingTable

/-! ## What is directed for a status -/

/-- A stage goes on with what its table directs, and fails with its own name where the table
directs nothing. -/
theorem Stage.route_eq (stage : Stage) (status : Status) :
    stage.route status =
      (stage.routing.resolve status).elim (.error (.unroutedStatus stage.name status)) .ok := by
  rw [Stage.route]
  cases stage.routing.resolve status <;> rfl

namespace RoutingTable

variable {t : RoutingTable}

theorem resolve_eq_none_iff {s : Status} :
    t.resolve s = none ↔ t.get? s = none ∧ t.wildcard = none :=
  Option.or_eq_none_iff

/-- A table without entries is one that directs nothing for any status. -/
theorem isEmpty_iff : t.isEmpty = true ↔ ∀ s, t.resolve s = none := by
  simp only [resolve_eq_none_iff, isEmpty, Bool.and_eq_true, Option.isNone_iff_eq_none]
  constructor
  · rintro ⟨hexact, hwildcard⟩ s
    refine ⟨?_, hwildcard⟩
    have hentries : t.exact.entries = [] := List.isEmpty_iff.mp hexact
    rw [get?, SortedMap.get?, hentries]
    rfl
  · intro h
    refine ⟨?_, (h 0).2⟩
    have hentries : t.exact.toList = [] := by
      refine List.eq_nil_iff_forall_not_mem.mpr fun e he => ?_
      have hsome := SortedMap.get?_eq_some_iff.mpr he
      have hnone := (h e.1).1
      rw [get?, hsome] at hnone
      cases hnone
    exact List.isEmpty_iff.mpr hentries

/-- Some steps from a table on, a status has the directive of the latest step for it, or what the
table listed for it, or the directive of the latest step for all others, or what the table directed
for all others. With none of these a stage that answers the status fails. Steps that are not for
the same status can change places, and a table is empty exactly when no status has a directive. -/
theorem resolve_after_steps (t : RoutingTable) (steps : List Step) :
    (∀ s : Status,
      let directed :=
        (latest (some s) steps).or ((t.get? s).or ((latest none steps).or t.wildcard))
      (t.after steps).resolve s = directed ∧
      ∀ (name : String) (service : Service),
        (Stage.mk name service (t.after steps)).route s =
          directed.elim (.error (.unroutedStatus name s)) .ok) ∧
    (∀ (earlier later : List Step) (a b : Step), steps = earlier ++ a :: b :: later → a.1 ≠ b.1 →
      t.after steps = t.after (earlier ++ b :: a :: later)) ∧
    ((t.after steps).isEmpty = true ↔ ∀ s, (t.after steps).resolve s = none) := by
  refine ⟨?_, ?_, isEmpty_iff⟩
  · intro s directed
    have hresolve : (t.after steps).resolve s = directed := by
      rw [resolve_eq, directive?_after, directive?_after, Option.or_assoc]
      rfl
    refine ⟨hresolve, fun name service => ?_⟩
    rw [Stage.route_eq, hresolve]
  · rintro earlier later a b rfl h
    exact t.after_swap earlier later h

end RoutingTable

end StageRelay
