import Mathlib.Data.List.Forall2

/-!
# The first exception in a list

Routes are tried in turn, extensions are looked up in turn, and so are keys and properties read.
What comes of it is decided by the first of them that is not as those before it. Where there is
none, all are alike. A list that is divided at one of its members has it at the position after those
before it. What is taken away from a list can be missed only if it would have come through.
-/

namespace StageRelay

/-- All members of a list have a property, or there is a first one that does not have it. -/
theorem forall_or_first {α : Type} (p : α → Prop) (l : List α) :
    (∀ a ∈ l, p a) ∨
      ∃ before a after, l = before ++ a :: after ∧ (∀ b ∈ before, p b) ∧ ¬ p a := by
  induction l with
  | nil => exact .inl (List.forall_mem_nil _)
  | cons a l ih =>
      by_cases ha : p a
      · rcases ih with hall | ⟨before, b, after, rfl, hbefore, hb⟩
        · exact .inl (List.forall_mem_cons.mpr ⟨ha, hall⟩)
        · exact .inr ⟨a :: before, b, after, rfl, List.forall_mem_cons.mpr ⟨ha, hbefore⟩, hb⟩
      · exact .inr ⟨[], a, l, rfl, List.forall_mem_nil _, ha⟩

/-- If each member of a list has a partner of a certain kind, the partners form a list. -/
theorem exists_forall₂ {α β : Type} {R : α → β → Prop} {P : β → Prop} {l : List α}
    (h : ∀ a ∈ l, ∃ b, R a b ∧ P b) : ∃ bs, List.Forall₂ R l bs ∧ ∀ b ∈ bs, P b := by
  induction l with
  | nil => exact ⟨[], .nil, List.forall_mem_nil _⟩
  | cons a l ih =>
      obtain ⟨⟨b, hb, hp⟩, hl⟩ := List.forall_mem_cons.mp h
      obtain ⟨bs, hbs, hps⟩ := ih hl
      exact ⟨b :: bs, .cons hb hbs, List.forall_mem_cons.mpr ⟨hp, hps⟩⟩

/-- A member stands at a position when that many members stand before it. -/
theorem getElem?_eq_some_iff_append {α : Type} {l : List α} {i : Nat} {a : α} :
    l[i]? = some a ↔ ∃ before after, l = before ++ a :: after ∧ before.length = i := by
  constructor
  · intro h
    obtain ⟨hi, rfl⟩ := List.getElem?_eq_some_iff.mp h
    refine ⟨l.take i, l.drop (i + 1), ?_, List.length_take_of_le (Nat.le_of_lt hi)⟩
    rw [List.getElem_cons_drop, List.take_append_drop]
  · rintro ⟨before, after, rfl, rfl⟩
    simp

/-- Members that are taken away before a list is mapped are missed just when they have an image. -/
theorem filterMap_filter_eq_iff {α β : Type} (p : α → Bool) (f : α → Option β) (l : List α) :
    (l.filter p).filterMap f = l.filterMap f ↔ ∀ a ∈ l, f a ≠ none → p a = true := by
  induction l with
  | nil => exact iff_of_true rfl (List.forall_mem_nil _)
  | cons a l ih =>
      rw [List.forall_mem_cons, ← ih]
      cases hp : p a with
      | true =>
          rw [List.filter_cons_of_pos hp]
          cases hf : f a with
          | none => simp [hf]
          | some b => simp [hf]
      | false =>
          rw [List.filter_cons_of_neg (by simp [hp])]
          cases hf : f a with
          | none => simp [hf]
          | some b =>
              have hlength := (l.filter_sublist (p := p)).filterMap f |>.length_le
              refine iff_of_false (fun heq => ?_) (fun h => absurd (h.1 (by simp)) (by simp))
              rw [heq, List.filterMap_cons_some hf] at hlength
              exact Nat.not_succ_le_self _ hlength

end StageRelay
