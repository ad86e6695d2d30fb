/-!
# Letter case of ASCII text

Method names and header names are compared without regard to the case of the
letters `A` to `Z`; every other character stands for itself. Both conversions
work character by character, so they keep the length of a text.
-/

namespace StageRelay.Ascii

/-- The text with `A` to `Z` replaced by `a` to `z`. -/
def lower (s : String) : String := String.ofList (s.toList.map Char.toLower)

/-- The text with `a` to `z` replaced by `A` to `Z`. -/
def upper (s : String) : String := String.ofList (s.toList.map Char.toUpper)

/-- Whether two texts agree up to the case of ASCII letters. -/
def sameFold (s t : String) : Bool := lower s == lower t

@[simp] theorem toList_lower (s : String) : (lower s).toList = s.toList.map Char.toLower := by
  simp [lower]

@[simp] theorem toList_upper (s : String) : (upper s).toList = s.toList.map Char.toUpper := by
  simp [upper]

theorem isUpper_iff {c : Char} : c.isUpper = true ↔ 'A'.val ≤ c.val ∧ c.val ≤ 'Z'.val :=
  decide_eq_true_iff

theorem isLower_iff {c : Char} : c.isLower = true ↔ 'a'.val ≤ c.val ∧ c.val ≤ 'z'.val :=
  Bool.and_eq_true_iff.trans (and_congr decide_eq_true_iff decide_eq_true_iff)

theorem toLower_of_not_isUpper {c : Char} (h : c.isUpper = false) : c.toLower = c :=
  dif_neg (of_decide_eq_false h)

theorem toUpper_of_not_isLower {c : Char} (h : c.isLower = false) : c.toUpper = c :=
  dif_neg (mt isLower_iff.mpr (Bool.eq_false_iff.mp h))

theorem isUpper_toLower (c : Char) : c.toLower.isUpper = false := by
  cases h : c.isUpper with
  | false => rw [toLower_of_not_isUpper h, h]
  | true =>
      have hupper := isUpper_iff.mp h
      obtain ⟨_, heq⟩ : ∃ h, c.toLower = ⟨c.val + ('a'.val - 'A'.val), h⟩ := ⟨_, dif_pos hupper⟩
      refine Bool.eq_false_iff.mpr fun hlower => ?_
      rw [isUpper_iff, heq] at hlower
      grind

theorem isLower_toUpper (c : Char) : c.toUpper.isLower = false := by
  cases h : c.isLower with
  | false => rw [toUpper_of_not_isLower h, h]
  | true =>
      have hlower := isLower_iff.mp h
      obtain ⟨_, heq⟩ : ∃ h, c.toUpper = ⟨c.val + ('A'.val - 'a'.val), h⟩ := ⟨_, dif_pos hlower⟩
      refine Bool.eq_false_iff.mpr fun hupper => ?_
      rw [isLower_iff, heq] at hupper
      grind

theorem sameFold_iff {s t : String} : sameFold s t ↔ lower s = lower t := by
  simp [sameFold]

end StageRelay.Ascii
