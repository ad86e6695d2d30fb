import StageRelay.Proofs.Decimal.Range
import StageRelay.Proofs.Json.NumberTexts

/-!
# Numbers that can be held

A number is read from a significand of 64 bits, which takes the first digits, and a power of ten,
which stands for the digits left over, the digits of the fraction and the exponent. Counted this
way, a number that has at most 307 digits before the point is never too large, however many digits
there are behind it.
-/

namespace StageRelay

namespace Numeral

open Magnitude (pow2 pow10)
open Text (digitValues)

variable {n : Numeral} {w : Written} {s : Nat} {ds : List Nat}

theorem accumulate_le (hs : s ≤ maxSignificand) (ds : List Nat) :
    (accumulate s ds).1 ≤ maxSignificand := by
  induction ds generalizing s with
  | nil => exact hs
  | cons d ds ih =>
      rw [accumulate]
      split
      next hfits => exact ih hfits
      next => exact hs

theorem length_accumulate_le (s : Nat) (ds : List Nat) : (accumulate s ds).2 ≤ ds.length := by
  induction ds generalizing s with
  | nil => exact Nat.le_refl 0
  | cons d ds ih =>
      rw [accumulate]
      split
      · exact Nat.le_succ_of_le (ih _)
      · exact Nat.le_refl _

/-- The significand has no more digits than were taken into it. -/
theorem accumulate_lt (s : Nat) (hds : ∀ d ∈ ds, d ≤ 9) :
    (accumulate s ds).1 + 1 ≤ (s + 1) * pow10 (ds.length - (accumulate s ds).2) := by
  induction ds generalizing s with
  | nil => exact Nat.le_of_eq (Nat.mul_one (s + 1)).symm
  | cons d ds ih =>
      obtain ⟨hd, hds⟩ := List.forall_mem_cons.mp hds
      rw [accumulate]
      split
      · have hleft := length_accumulate_le (10 * s + d) ds
        have hlength : (d :: ds).length - (accumulate (10 * s + d) ds).2 =
            1 + (ds.length - (accumulate (10 * s + d) ds).2) := by
          rw [List.length_cons]
          omega
        calc (accumulate (10 * s + d) ds).1 + 1
            ≤ (10 * s + d + 1) * pow10 (ds.length - (accumulate (10 * s + d) ds).2) := ih _ hds
          _ ≤ (s + 1) * 10 * pow10 (ds.length - (accumulate (10 * s + d) ds).2) :=
              Nat.mul_le_mul_right _ (by omega)
          _ = (s + 1) * pow10 ((d :: ds).length - (accumulate (10 * s + d) ds).2) := by
              rw [hlength, Magnitude.pow10_add, Nat.mul_assoc]
              rfl
      · rw [List.length_cons, Nat.sub_self]
        exact Nat.le_of_eq (Nat.mul_one (s + 1)).symm

/-- The digits that are read into a significand, first those before the point. -/
def significand (n : Numeral) : Nat :=
  (accumulate (accumulate 0 n.whole).1 (n.fraction.getD [])).1

/-- How many digits are read into the significand. -/
def taken (n : Numeral) : Nat :=
  n.whole.length - (accumulate 0 n.whole).2 + ((n.fraction.getD []).length -
    (accumulate (accumulate 0 n.whole).1 (n.fraction.getD [])).2)

theorem magnitude?_eq (n : Numeral) : n.magnitude? =
    Magnitude.scaledByTen? n.significand (n.whole.length - n.taken + powerOf n.exponent) := by
  have hdropped := length_accumulate_le 0 n.whole
  have hunused := length_accumulate_le (accumulate 0 n.whole).1 (n.fraction.getD [])
  have htaken : (n.whole.length : Int) - n.taken = (accumulate 0 n.whole).2 -
      (((n.fraction.getD []).length : Int) -
        (accumulate (accumulate 0 n.whole).1 (n.fraction.getD [])).2) := by
    rw [taken]
    omega
  rw [htaken]
  cases hexponent : n.exponent <;> simp [magnitude?, hexponent, powerOf, significand]

theorem significand_le_maxSignificand (n : Numeral) : n.significand ≤ maxSignificand :=
  accumulate_le (accumulate_le (Nat.zero_le _) n.whole) (n.fraction.getD [])

theorem significand_le_pow10 (hwhole : ∀ d ∈ n.whole, d ≤ 9)
    (hfraction : ∀ d ∈ n.fraction.getD [], d ≤ 9) : n.significand ≤ pow10 n.taken := by
  have hbefore := accumulate_lt 0 hwhole
  rw [Nat.zero_add, Nat.one_mul] at hbefore
  have hall := accumulate_lt (accumulate 0 n.whole).1 hfraction
  rw [taken, Magnitude.pow10_add]
  exact Nat.le_of_succ_le (Nat.le_trans hall (Nat.mul_le_mul_right _ hbefore))

/-- A number is not too large if there are at most 307 digits before the point. -/
theorem isSome_magnitude? (hwhole : ∀ d ∈ n.whole, d ≤ 9)
    (hfraction : ∀ d ∈ n.fraction.getD [], d ≤ 9)
    (hsize : n.whole.length + powerOf n.exponent ≤ 307) : n.magnitude?.isSome = true := by
  have hbits : maxSignificand ≤ pow2 64 := by decide
  rw [magnitude?_eq]
  exact Magnitude.isSome_scaledByTen? (significand_le_pow10 hwhole hfraction)
    (Nat.le_trans n.significand_le_maxSignificand hbits) (by omega)

theorem le_nine_of_mem_digitValues {cs : List Char} (hcs : ∀ c ∈ cs, c.isDigit = true) :
    ∀ d ∈ digitValues cs, d ≤ 9 := by
  intro d hd
  obtain ⟨c, hc, rfl⟩ := List.mem_map.mp hd
  have hle : c.toNat ≤ '9'.toNat := by
    have hdigit := hcs c hc
    simp only [Char.isDigit, Bool.and_eq_true, decide_eq_true_eq] at hdigit
    exact hdigit.2
  have hnine : '9'.toNat = '0'.toNat + 9 := rfl
  omega

end Numeral

namespace Json

open Numeral (Written)

variable {w : Written}

/-- A number literal is held if it has at most 307 digits before the point, where the exponent
counts as so many digits. -/
theorem exists_held?_text_of_size (h : w.IsLiteral) (hsize : w.whole.length + w.power ≤ 307) :
    ∃ v, held? w.text = some v := by
  obtain ⟨n, hparse, hof⟩ := exists_parse?_text h
  have hwhole : ∀ d ∈ n.whole, d ≤ 9 := by
    rw [hof.whole]
    exact Numeral.le_nine_of_mem_digitValues h.whole.isDigit
  have hfraction : ∀ d ∈ n.fraction.getD [], d ≤ 9 := by
    rw [hof.fraction]
    cases hds : w.fraction with
    | none => exact List.forall_mem_nil _
    | some ds => exact Numeral.le_nine_of_mem_digitValues (h.fraction ds hds).isDigit
  have hlength : n.whole.length + Numeral.powerOf n.exponent ≤ 307 := by
    rwa [hof.whole, hof.power, Text.digitValues, List.length_map]
  have hmagnitude := Numeral.isSome_magnitude? hwhole hfraction hlength
  rcases n.toJson_cases with ⟨x, hx⟩ | hfaulty
  · exact exists_held?_of_isSound hparse (hx ▸ rfl)
  · rw [(Numeral.toJson_eq_faulty_iff.mp hfaulty).2] at hmagnitude
    cases hmagnitude

end Json
end StageRelay
