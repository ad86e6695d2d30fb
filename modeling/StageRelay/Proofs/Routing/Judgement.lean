import Mathlib.Data.List.Forall2
import StageRelay.Condition
import StageRelay.Proofs.Lists

/-!
# Conditions judged by their structure

`isUnconditional` and `isUnsatisfiable` look at a condition and at no request. What
they say is so for every request. What they leave open cannot be said by structure
alone: then the tests in the condition can be settled, each occurrence on its own, so
that the condition takes the other value.

Both theorems go by induction on conditions, for the two judgements at once, since a
negation swaps them. `SettledAs` relates a condition to what it becomes when its tests
are settled.
-/

namespace StageRelay.Condition

/-! ## Judgements are right -/

/-- What is judged of a condition is so for a request. Both judgements are proved at once, since
each turns into the other under a negation. -/
private theorem holds_of_judged (r : Request) (c : Condition) :
    (c.isUnconditional = true → c.holds r = true) ∧
      (c.isUnsatisfiable = true → c.holds r = false) := by
  induction c using Condition.induction with
  | always => simp [isUnsatisfiable]
  | never => simp [isUnconditional]
  | method | pathStart | pathEquals | headerPresent | headerEquals | hasPayload | hasFiles =>
      simp [isUnconditional, isUnsatisfiable]
  | all cs ih =>
      simp only [isUnconditional_all, isUnsatisfiable_all, holds_all, List.all_eq_true,
        List.any_eq_true, List.all_eq_false, Bool.not_eq_true]
      constructor
      · intro h c hc
        exact (ih c hc).1 (h c hc)
      · rintro ⟨c, hc, h⟩
        exact ⟨c, hc, (ih c hc).2 h⟩
  | any cs ih =>
      simp only [isUnconditional_any, isUnsatisfiable_any, holds_any, List.all_eq_true,
        List.any_eq_true, List.any_eq_false, Bool.not_eq_true]
      constructor
      · rintro ⟨c, hc, h⟩
        exact ⟨c, hc, (ih c hc).1 h⟩
      · intro h c hc
        exact (ih c hc).2 (h c hc)
  | not c ih =>
      simp only [isUnconditional_not, isUnsatisfiable_not, holds_not, Bool.not_eq_true',
        Bool.not_eq_false']
      exact ih.symm

variable {c : Condition}

theorem holds_of_isUnconditional (h : c.isUnconditional = true) (r : Request) :
    c.holds r = true :=
  (holds_of_judged r c).1 h

theorem not_holds_of_isUnsatisfiable (h : c.isUnsatisfiable = true) (r : Request) :
    c.holds r = false :=
  (holds_of_judged r c).2 h

/-- No condition is judged in both ways, since it would have to hold and not to hold for one and the
same request. -/
theorem isUnsatisfiable_eq_false (h : c.isUnconditional = true) : c.isUnsatisfiable = false := by
  by_contra hnot
  have hfalse := not_holds_of_isUnsatisfiable (by simpa using hnot) (Request.make "GET" "/")
  rw [holds_of_isUnconditional h] at hfalse
  cases hfalse

/-- What the structure of a condition shows is so for every request, and it never shows
both that the condition holds and that it does not. -/
theorem judgements_sound (c : Condition) (r : Request) :
    (c.isUnconditional = true → Evaluator.standard c r = true) ∧
      (c.isUnsatisfiable = true → Evaluator.standard c r = false) ∧
      ¬ (c.isUnconditional = true ∧ c.isUnsatisfiable = true) := by
  refine ⟨fun h => holds_of_isUnconditional h r, fun h => not_holds_of_isUnsatisfiable h r, ?_⟩
  rintro ⟨hall, hnone⟩
  rw [isUnsatisfiable_eq_false hall] at hnone
  cases hnone

/-! ## Settled tests -/

def constant (value : Bool) : Condition := if value then .always else .never

@[simp] theorem holds_constant (value : Bool) (r : Request) :
    (constant value).holds r = value := by
  cases value with
  | true => exact holds_always r
  | false => exact holds_never r

/-- Whether a condition looks at a part of the request itself. Only such conditions are settled one
way or the other; the others follow from those inside. -/
def isTest : Condition → Bool
  | .method _ | .pathStart _ | .pathEquals _ | .headerPresent _ | .headerEquals .. | .hasPayload
  | .hasFiles => true
  | .always | .never | .all _ | .any _ | .not _ => false

/-- What a condition becomes when each test in it is replaced by `always` or by `never`,
every occurrence on its own: two occurrences of one test may become different constants,
though they agree on every request. -/
inductive SettledAs : Condition → Condition → Prop where
  | always : SettledAs .always .always
  | never : SettledAs .never .never
  | test {c : Condition} (h : c.isTest = true) (value : Bool) : SettledAs c (constant value)
  | all {cs ds : List Condition} (h : List.Forall₂ SettledAs cs ds) :
      SettledAs (.all cs) (.all ds)
  | any {cs ds : List Condition} (h : List.Forall₂ SettledAs cs ds) :
      SettledAs (.any cs) (.any ds)
  | not {c d : Condition} (h : SettledAs c d) : SettledAs (.not c) (.not d)

inductive IsConstant : Condition → Prop where
  | always : IsConstant .always
  | never : IsConstant .never
  | all {cs : List Condition} (h : ∀ c ∈ cs, IsConstant c) : IsConstant (.all cs)
  | any {cs : List Condition} (h : ∀ c ∈ cs, IsConstant c) : IsConstant (.any cs)
  | not {c : Condition} (h : IsConstant c) : IsConstant (.not c)

variable {cs ds : List Condition} {d : Condition}

private theorem eq_of_forall₂ (h : List.Forall₂ SettledAs cs ds)
    (heq : ∀ c ∈ cs, ∀ d, c.SettledAs d → d = c) : ds = cs := by
  induction h with
  | nil => rfl
  | cons hd _ ih =>
      obtain ⟨hc, hcs⟩ := List.forall_mem_cons.mp heq
      rw [hc _ hd, ih hcs]

/-- Where there is no test, nothing is settled. -/
theorem SettledAs.eq_of_isConstant (h : c.SettledAs d) (hc : c.IsConstant) : d = c := by
  induction hc generalizing d with
  | always =>
      cases h with
      | always => rfl
      | test h => simp [isTest] at h
  | never =>
      cases h with
      | never => rfl
      | test h => simp [isTest] at h
  | all _ ih =>
      cases h with
      | test h => simp [isTest] at h
      | all h => rw [eq_of_forall₂ h fun c hc d hd => ih c hc hd]
  | any _ ih =>
      cases h with
      | test h => simp [isTest] at h
      | any h => rw [eq_of_forall₂ h fun c hc d hd => ih c hc hd]
  | not _ ih =>
      cases h with
      | test h => simp [isTest] at h
      | not h => rw [ih h]

/-- If one of some conditions can be settled in a way, they can be settled so that one is. -/
private theorem exists_settled_one {P : Condition → Prop} (hc : c ∈ cs)
    (h : ∃ d, c.SettledAs d ∧ P d) (hcs : ∀ c ∈ cs, ∃ d, c.SettledAs d) :
    ∃ ds, List.Forall₂ SettledAs cs ds ∧ ∃ d ∈ ds, P d := by
  obtain ⟨before, after, rfl⟩ := List.append_of_mem hc
  obtain ⟨hbefore, hafter⟩ := List.forall_mem_append.mp hcs
  obtain ⟨d, hd, hp⟩ := h
  obtain ⟨ds, hds, -⟩ := exists_forall₂ (P := fun _ => True) fun c hc =>
    (hbefore c hc).imp fun _ h => ⟨h, trivial⟩
  obtain ⟨ds', hds', -⟩ := exists_forall₂ (P := fun _ => True) fun c hc =>
    (hafter c (List.mem_cons_of_mem _ hc)).imp fun _ h => ⟨h, trivial⟩
  exact ⟨ds ++ d :: ds', List.rel_append hds (.cons hd hds'), d, by simp, hp⟩

/-! ## Judgements are complete -/

/-- What is not judged of a condition is refuted when its tests are settled in some way. Both halves
are needed together, since a negation turns one into the other. -/
private structure JudgedFully (c : Condition) : Prop where
  refuted : c.isUnconditional = false → ∃ d, c.SettledAs d ∧ ∀ r, d.holds r = false
  fulfilled : c.isUnsatisfiable = false → ∃ d, c.SettledAs d ∧ ∀ r, d.holds r = true

private theorem JudgedFully.of_isTest (h : c.isTest = true) : c.JudgedFully :=
  ⟨fun _ => ⟨constant false, .test h false, holds_constant false⟩,
    fun _ => ⟨constant true, .test h true, holds_constant true⟩⟩

/-- Since no condition is judged in both ways, its tests can be settled. -/
private theorem JudgedFully.exists_settledAs (h : c.JudgedFully) : ∃ d, c.SettledAs d := by
  cases hall : c.isUnconditional with
  | true => exact (h.fulfilled (isUnsatisfiable_eq_false hall)).imp fun _ hd => hd.1
  | false => exact (h.refuted hall).imp fun _ hd => hd.1

private theorem judgedFully (c : Condition) : c.JudgedFully := by
  induction c using Condition.induction with
  | always => exact ⟨by simp [isUnconditional], fun _ => ⟨_, .always, holds_always⟩⟩
  | never => exact ⟨fun _ => ⟨_, .never, holds_never⟩, by simp [isUnsatisfiable]⟩
  | method | pathStart | pathEquals | headerPresent | headerEquals | hasPayload | hasFiles =>
      exact .of_isTest rfl
  | all cs ih =>
      constructor
      · intro h
        rw [isUnconditional_all] at h
        obtain ⟨c, hc, h⟩ := List.all_eq_false.mp h
        obtain ⟨ds, hds, d, hd, hfalse⟩ :=
          exists_settled_one hc ((ih c hc).refuted (by simpa using h))
            fun c hc => (ih c hc).exists_settledAs
        refine ⟨.all ds, .all hds, fun r => ?_⟩
        rw [holds_all, List.all_eq_false]
        exact ⟨d, hd, by simp [hfalse r]⟩
      · intro h
        rw [isUnsatisfiable_all] at h
        obtain ⟨ds, hds, htrue⟩ := exists_forall₂ fun c hc =>
          (ih c hc).fulfilled (by simpa using List.any_eq_false.mp h c hc)
        refine ⟨.all ds, .all hds, fun r => ?_⟩
        rw [holds_all, List.all_eq_true]
        exact fun d hd => htrue d hd r
  | any cs ih =>
      constructor
      · intro h
        rw [isUnconditional_any] at h
        obtain ⟨ds, hds, hfalse⟩ := exists_forall₂ fun c hc =>
          (ih c hc).refuted (by simpa using List.any_eq_false.mp h c hc)
        refine ⟨.any ds, .any hds, fun r => ?_⟩
        rw [holds_any, List.any_eq_false]
        exact fun d hd => by simp [hfalse d hd r]
      · intro h
        rw [isUnsatisfiable_any] at h
        obtain ⟨c, hc, h⟩ := List.all_eq_false.mp h
        obtain ⟨ds, hds, d, hd, htrue⟩ :=
          exists_settled_one hc ((ih c hc).fulfilled (by simpa using h))
            fun c hc => (ih c hc).exists_settledAs
        refine ⟨.any ds, .any hds, fun r => ?_⟩
        rw [holds_any, List.any_eq_true]
        exact ⟨d, hd, htrue r⟩
  | not c ih =>
      constructor
      · intro h
        rw [isUnconditional_not] at h
        obtain ⟨d, hd, htrue⟩ := ih.fulfilled h
        exact ⟨.not d, .not hd, fun r => by rw [holds_not, htrue r]; rfl⟩
      · intro h
        rw [isUnsatisfiable_not] at h
        obtain ⟨d, hd, hfalse⟩ := ih.refuted h
        exact ⟨.not d, .not hd, fun r => by rw [holds_not, hfalse r]; rfl⟩

/-- The judgements are as complete as structure alone allows. Where a condition is not
judged to hold always, its tests can be settled so that it never holds, and the other way
round. So a condition without tests is judged in one of the two ways, by its value. -/
theorem judgements_complete (c : Condition) :
    (c.isUnconditional = false →
        ∃ d, c.SettledAs d ∧ ∀ r, Evaluator.standard d r = false) ∧
      (c.isUnsatisfiable = false →
        ∃ d, c.SettledAs d ∧ ∀ r, Evaluator.standard d r = true) ∧
      (c.IsConstant → c.isUnsatisfiable = !c.isUnconditional ∧
        ∀ r, Evaluator.standard c r = c.isUnconditional) := by
  obtain ⟨hfalse, htrue⟩ := judgedFully c
  refine ⟨hfalse, htrue, fun hc => ?_⟩
  cases hall : c.isUnconditional with
  | true => exact ⟨isUnsatisfiable_eq_false hall, holds_of_isUnconditional hall⟩
  | false =>
      obtain ⟨d, hd, hnever⟩ := hfalse hall
      rw [hd.eq_of_isConstant hc] at hnever
      refine ⟨?_, hnever⟩
      by_contra hnot
      obtain ⟨d', hd', halways⟩ := htrue (by simpa using hnot)
      rw [hd'.eq_of_isConstant hc] at halways
      have hboth := halways (Request.make "GET" "/")
      rw [hnever] at hboth
      cases hboth

end StageRelay.Condition
