import StageRelay.Text.Digits

/-!
# Numbers in decimal digits

Which texts spell a number is said here by their characters alone, with the value that the library
gives to a row of digits. `Text.natural?` reads exactly these texts, as far as the number is below
the bound.
-/

namespace StageRelay

namespace Text

/-- The characters spell a number: one or more decimal digits, zeros in front of it included, and
maybe a plus sign before them. -/
inductive Spells : List Char → Nat → Prop
  | digits {cs : List Char} (hne : cs ≠ []) (h : ∀ c ∈ cs, c.isDigit = true) :
      Spells cs (Nat.ofDigitChars 10 cs 0)
  | plus {cs : List Char} (hne : cs ≠ []) (h : ∀ c ∈ cs, c.isDigit = true) :
      Spells ('+' :: cs) (Nat.ofDigitChars 10 cs 0)

variable {cs : List Char} {n : Nat}

theorem isDigit_of_digits (h : (digits cs).2 = []) : ∀ c ∈ cs, c.isDigit = true := by
  induction cs with
  | nil => exact List.forall_mem_nil _
  | cons c cs ih =>
      rw [digits, digit?_eq] at h
      cases hc : c.isDigit with
      | false =>
          simp only [hc, Bool.false_eq_true, if_false] at h
          cases h
      | true =>
          simp only [hc, if_true] at h
          exact List.forall_mem_cons.mpr ⟨hc, ih h⟩

theorem number?_of_isDigit (hne : cs ≠ []) (h : ∀ c ∈ cs, c.isDigit = true) :
    number? cs = some (Nat.ofDigitChars 10 cs 0) := by
  have hvalue := digitsValue_digitValues cs
  obtain ⟨c, rest, rfl⟩ := List.exists_cons_of_ne_nil hne
  rw [number?, digits_of_isDigit h, ← hvalue]
  rfl

/-- What is read as a number are one or more digits. -/
theorem number?_eq_some_iff :
    number? cs = some n ↔
      cs ≠ [] ∧ (∀ c ∈ cs, c.isDigit = true) ∧ Nat.ofDigitChars 10 cs 0 = n := by
  constructor
  · intro h
    have hne : cs ≠ [] := by
      rintro rfl
      cases h
    have hdigits : ∀ c ∈ cs, c.isDigit = true := by
      apply isDigit_of_digits
      rw [number?] at h
      split at h
      next heq => rw [heq]
      next => cases h
    exact ⟨hne, hdigits, Option.some.inj ((number?_of_isDigit hne hdigits).symm.trans h)⟩
  · rintro ⟨hne, hdigits, rfl⟩
    exact number?_of_isDigit hne hdigits

theorem natural?_plus (bound : Nat) (cs : List Char) :
    natural? bound ('+' :: cs) = (number? cs).filter (· < bound) := rfl

theorem natural?_of_ne_plus (bound : Nat) (h : cs.head? ≠ some '+') :
    natural? bound cs = (number? cs).filter (· < bound) := by
  rw [natural?]
  rintro rest rfl
  exact h rfl

/-- Exactly the numbers below the bound are read. -/
theorem natural?_eq_some_iff {bound : Nat} :
    natural? bound cs = some n ↔ Spells cs n ∧ n < bound := by
  have hsign : ∀ {cs : List Char}, (∀ c ∈ cs, c.isDigit = true) → cs.head? ≠ some '+' := by
    intro cs h hhead
    have hplus : ('+' : Char).isDigit = true := h '+' (List.mem_of_head? hhead)
    exact absurd hplus (by decide)
  have hfilter : ∀ cs, (number? cs).filter (· < bound) = some n ↔
      number? cs = some n ∧ n < bound := by
    intro cs
    rw [Option.filter_eq_some_iff, decide_eq_true_eq]
  constructor
  · intro h
    by_cases hplus : cs.head? = some '+'
    · obtain ⟨rest, rfl⟩ := List.head?_eq_some_iff.mp hplus
      rw [natural?_plus, hfilter, number?_eq_some_iff] at h
      obtain ⟨⟨hne, hdigits, rfl⟩, hlt⟩ := h
      exact ⟨.plus hne hdigits, hlt⟩
    · rw [natural?_of_ne_plus bound hplus, hfilter, number?_eq_some_iff] at h
      obtain ⟨⟨hne, hdigits, rfl⟩, hlt⟩ := h
      exact ⟨.digits hne hdigits, hlt⟩
  · rintro ⟨hspells, hlt⟩
    cases hspells with
    | digits hne h =>
        rw [natural?_of_ne_plus bound (hsign h), hfilter]
        exact ⟨number?_of_isDigit hne h, hlt⟩
    | plus hne h =>
        rw [natural?_plus, hfilter]
        exact ⟨number?_of_isDigit hne h, hlt⟩

end Text

end StageRelay
