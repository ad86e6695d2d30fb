import StageRelay.Decimal.Binary64

/-!
# Numbers that are not too large

Rounding a quotient never takes it past a power of two, and so a quotient that is no larger than
2 ^ 1022 is always rounded to a number. The same bound, kept through products and quotients, tells
which significands can be multiplied by which powers of ten.
-/

namespace StageRelay

namespace Magnitude

variable {num den k n s steps : Nat} {e : Int} {a b f : Magnitude}

/-- The value is no larger than a power of two. -/
def IsAtMost (f : Magnitude) (k : Nat) : Prop := f.ratio.1 ≤ pow2 k * f.ratio.2

/-! ## Powers of two -/

theorem pow2_pos (k : Nat) : 0 < pow2 k := Nat.two_pow_pos k

theorem pow2_add (m n : Nat) : pow2 (m + n) = pow2 m * pow2 n := Nat.pow_add 2 m n

theorem pow2_le_pow2 {m n : Nat} (h : m ≤ n) : pow2 m ≤ pow2 n :=
  Nat.pow_le_pow_right Nat.two_pos h

theorem lt_pow2_log2 (n : Nat) : n < pow2 (n.log2 + 1) := Nat.lt_log2_self

theorem log2_le_of_lt_pow2 (hn : n ≠ 0) (h : n < pow2 (k + 1)) : n.log2 ≤ k :=
  Nat.le_of_lt_succ ((Nat.log2_lt hn).mpr h)

/-! ## Rounding -/

/-- Rounding to a natural number does not go past a natural number. -/
theorem roundHalfEven_le (hden : 0 < den) (h : num ≤ n * den) : roundHalfEven num den ≤ n := by
  have hdivision := Nat.div_add_mod num den
  have hquotient : num / den ≤ n := Nat.div_le_of_le_mul (Nat.mul_comm n den ▸ h)
  rcases Nat.lt_or_eq_of_le hquotient with hlt | heq
  · rw [roundHalfEven]
    grind
  · have hexact : num % den = 0 := by
      rw [heq, Nat.mul_comm] at hdivision
      omega
    rw [roundHalfEven, hexact, if_pos (by omega)]
    exact hquotient

theorem exponentOf_le (hnum : num ≠ 0) (h : num ≤ pow2 k * den) :
    exponentOf num den ≤ max ((k : Int) - 52) minExponent := by
  have hlog : num.log2 ≤ k + den.log2 := by
    refine log2_le_of_lt_pow2 hnum (Nat.lt_of_le_of_lt h ?_)
    rw [Nat.add_assoc, pow2_add]
    exact Nat.mul_lt_mul_of_pos_left (lt_pow2_log2 den) (pow2_pos k)
  rw [exponentOf]
  generalize scale num den _ = p
  dsimp only
  split
  · omega
  · omega

def mantissaOf (num den : Nat) : Nat :=
  roundHalfEven (scale num den (exponentOf num den)).1 (scale num den (exponentOf num den)).2

theorem round?_eq (hnum : num ≠ 0) : round? num den =
    if mantissaOf num den = pow2 53 then
      if maxExponent < exponentOf num den + 1 then none
      else some ⟨pow2 52, exponentOf num den + 1⟩
    else if maxExponent < exponentOf num den then none
    else some ⟨mantissaOf num den, exponentOf num den⟩ := by
  rw [round?, if_neg hnum, mantissaOf]
  simp only
  split <;> rfl

/-- A quotient that is not above 2 ^ 1022 is not too large to be rounded. -/
theorem isSome_round? (h : num ≤ pow2 k * den) (hk : k ≤ 1022) :
    (round? num den).isSome = true := by
  by_cases hnum : num = 0
  · rw [round?, if_pos hnum]
    rfl
  · have hle := exponentOf_le hnum h
    have hmin : minExponent = -1074 := rfl
    have hmax : maxExponent = 971 := rfl
    rw [round?_eq hnum]
    split
    · rw [if_neg (by omega)]
      rfl
    · rw [if_neg (by omega)]
      rfl

theorem ratio_pos (f : Magnitude) : 0 < f.ratio.2 := by
  rw [ratio]
  split
  · exact Nat.one_pos
  · exact pow2_pos _

/-- The bound of a value as a bound of its mantissa. -/
theorem isAtMost_iff {m : Nat} (he : e ≤ k) :
    IsAtMost ⟨m, e⟩ k ↔ m ≤ pow2 ((k : Int) - e).toNat := by
  by_cases hnonneg : 0 ≤ e
  · have hratio : ratio ⟨m, e⟩ = (m * pow2 e.toNat, 1) := if_pos hnonneg
    have hsum : k = ((k : Int) - e).toNat + e.toNat := by omega
    have hsplit : pow2 k = pow2 ((k : Int) - e).toNat * pow2 e.toNat := by
      rw [← pow2_add, ← hsum]
    rw [IsAtMost, hratio, Nat.mul_one, hsplit]
    exact Nat.mul_le_mul_right_iff (pow2_pos _)
  · have hratio : ratio ⟨m, e⟩ = (m, pow2 (-e).toNat) := if_neg hnonneg
    have hsum : k + (-e).toNat = ((k : Int) - e).toNat := by omega
    rw [IsAtMost, hratio, ← pow2_add, hsum]

/-- A quotient that is divided by a power of two has the bound that is divided by it. -/
theorem scale_le (h : num ≤ pow2 k * den) (he : e ≤ k) :
    (scale num den e).1 ≤ pow2 ((k : Int) - e).toNat * (scale num den e).2 := by
  rw [scale]
  split
  · refine Nat.le_trans h (Nat.le_of_eq ?_)
    rw [Nat.mul_left_comm, ← pow2_add, Nat.mul_comm]
    congr 2
    omega
  · refine Nat.le_trans (Nat.mul_le_mul_right _ h) (Nat.le_of_eq ?_)
    rw [Nat.mul_right_comm, ← pow2_add]
    congr 2
    omega

theorem scale_pos (hden : 0 < den) (e : Int) : 0 < (scale num den e).2 := by
  rw [scale]
  split
  · exact Nat.mul_pos hden (pow2_pos _)
  · exact hden

/-- The mantissa is carried over without a change of the value. -/
theorem isAtMost_carry (he : e ≤ k) (h : IsAtMost ⟨pow2 53, e⟩ k) :
    IsAtMost ⟨pow2 52, e + 1⟩ k := by
  have hbits : 53 ≤ ((k : Int) - e).toNat :=
    (Nat.pow_le_pow_iff_right Nat.one_lt_two).mp ((isAtMost_iff he).mp h)
  exact (isAtMost_iff (by omega)).mpr (pow2_le_pow2 (by omega))

theorem isAtMost_zero (k : Nat) : zero.IsAtMost k := Nat.zero_le _

/-- Rounding does not take a quotient past a power of two, since powers of two are themselves among
the values. -/
theorem isAtMost_round? (hden : 0 < den) (h : num ≤ pow2 k * den) (hf : round? num den = some f) :
    f.IsAtMost k := by
  by_cases hnum : num = 0
  · rw [round?, if_pos hnum] at hf
    obtain rfl := Option.some.inj hf
    exact isAtMost_zero k
  · have he : exponentOf num den ≤ k := by
      have hle := exponentOf_le hnum h
      have hmin : minExponent = -1074 := rfl
      omega
    have hmantissa : IsAtMost ⟨mantissaOf num den, exponentOf num den⟩ k :=
      (isAtMost_iff he).mpr (roundHalfEven_le (scale_pos hden _) (scale_le h he))
    rw [round?_eq hnum] at hf
    split at hf
    next hcarry =>
      rw [hcarry] at hmantissa
      split at hf
      · cases hf
      · obtain rfl := Option.some.inj hf
        exact isAtMost_carry he hmantissa
    next =>
      split at hf
      · cases hf
      · obtain rfl := Option.some.inj hf
        exact hmantissa

/-! ## Products and quotients -/

/-- A product is not too large when its factors are small enough. -/
theorem isSome_mul? {j : Nat} (ha : a.IsAtMost j) (hb : b.IsAtMost k) (hjk : j + k ≤ 1022) :
    (a.mul? b).isSome = true := by
  refine isSome_round? ?_ hjk
  rw [pow2_add, Nat.mul_mul_mul_comm]
  exact Nat.mul_le_mul ha hb

def IsAtLeastOne (f : Magnitude) : Prop := f.ratio.2 ≤ f.ratio.1

theorem div?_le (ha : a.IsAtMost k) (hb : b.IsAtLeastOne) :
    a.ratio.1 * b.ratio.2 ≤ pow2 k * (a.ratio.2 * b.ratio.1) := by
  rw [← Nat.mul_assoc]
  exact Nat.mul_le_mul ha hb

/-- A quotient by a number that is not below one is no larger than what is divided. -/
theorem exists_div? (ha : a.IsAtMost k) (hb : b.IsAtLeastOne) (hk : k ≤ 1022) :
    ∃ f, a.div? b = some f ∧ f.IsAtMost k := by
  obtain ⟨f, hf⟩ := Option.isSome_iff_exists.mp (isSome_round? (div?_le ha hb) hk)
  have hden : 0 < a.ratio.2 * b.ratio.1 :=
    Nat.mul_pos a.ratio_pos (Nat.lt_of_lt_of_le b.ratio_pos hb)
  exact ⟨f, hf, isAtMost_round? hden (div?_le ha hb) hf⟩

/-! ## Powers of ten -/

/-- The powers of ten that the scaling uses are at least one. -/
theorem isAtLeastOne_tenTo (h : n < 309) : (tenTo n).IsAtLeastOne := by
  have hall : ∀ n < 309, (tenTo n).ratio.2 ≤ (tenTo n).ratio.1 := by decide +kernel
  exact hall n h

theorem isAtMost_tenTo (n : Nat) : (tenTo n).IsAtMost ((pow10 n).log2 + 1) := by
  have hle : pow10 n ≤ pow2 ((pow10 n).log2 + 1) * 1 := by
    rw [Nat.mul_one]
    exact Nat.le_of_lt (lt_pow2_log2 (pow10 n))
  rw [tenTo]
  cases hround : round? (pow10 n) 1 with
  | none => exact isAtMost_zero _
  | some f => exact isAtMost_round? Nat.one_pos hle hround

theorem isSome_go (hf : f.IsAtMost k) (hk : k ≤ 1022)
    (he : 0 ≤ e → e ≤ 308 ∧ k + ((pow10 e.toNat).log2 + 1) ≤ 1022) :
    (scaledByTen?.go f e steps).isSome = true := by
  induction steps generalizing f e with
  | zero => rfl
  | succ steps ih =>
      rw [scaledByTen?.go]
      split
      · rfl
      · by_cases hneg : 0 ≤ e
        · obtain ⟨hlt, hbound⟩ := he hneg
          rw [if_neg (by omega), if_pos hneg]
          exact isSome_mul? hf (isAtMost_tenTo _) hbound
        · rw [if_neg (by omega), if_neg hneg]
          split
          · obtain ⟨g, hg, -⟩ := exists_div? hf (isAtLeastOne_tenTo (n := (-e).toNat) (by omega)) hk
            rw [hg]
            rfl
          · obtain ⟨g, hg, hbelow⟩ := exists_div? hf (isAtLeastOne_tenTo (n := 308) (by omega)) hk
            rw [hg, Option.bind_some]
            exact ih hbelow fun hnonneg => by omega

theorem isSome_scaledByTen?_of_le (hs : s ≤ pow2 k) (hk : k ≤ 1022)
    (he : 0 ≤ e → e ≤ 308 ∧ k + ((pow10 e.toNat).log2 + 1) ≤ 1022) :
    (scaledByTen? s e).isSome = true := by
  have hle : s ≤ pow2 k * 1 := by rwa [Nat.mul_one]
  obtain ⟨f, hf⟩ := Option.isSome_iff_exists.mp (isSome_round? hle hk)
  rw [scaledByTen?, hf]
  exact isSome_go (isAtMost_round? Nat.one_pos hle hf) hk he

theorem pow10_pos (n : Nat) : 0 < pow10 n := Nat.pow_pos (by decide)

theorem pow10_add (m n : Nat) : pow10 (m + n) = pow10 m * pow10 n := Nat.pow_add 10 m n

theorem pow10_le_pow10 {m n : Nat} (h : m ≤ n) : pow10 m ≤ pow10 n :=
  Nat.pow_le_pow_right (by decide) h

theorem log2_add_log2_le {m n : Nat} (hm : m ≠ 0) (hn : n ≠ 0) :
    m.log2 + n.log2 ≤ (m * n).log2 := by
  rw [Nat.le_log2 (Nat.mul_ne_zero hm hn), Nat.pow_add]
  exact Nat.mul_le_mul (Nat.log2_self_le hm) (Nat.log2_self_le hn)

/-- The powers of ten up to the 307th have at most 1020 bits. -/
theorem log2_pow10_le (h : n ≤ 307) : (pow10 n).log2 ≤ 1019 := by
  have hlargest : pow10 307 < pow2 1020 := by decide +kernel
  exact log2_le_of_lt_pow2 (Nat.ne_of_gt (pow10_pos n))
    (Nat.lt_of_le_of_lt (pow10_le_pow10 h) hlargest)

/-- A significand of 64 bits can be scaled by a power of ten if there are at most 307 digits before
the point then. -/
theorem isSome_scaledByTen? {j : Nat} (hdigits : s ≤ pow10 j) (hbits : s ≤ pow2 64)
    (he : j + e ≤ 307) : (scaledByTen? s e).isSome = true := by
  by_cases hneg : e < 0
  · exact isSome_scaledByTen?_of_le hbits (by decide) fun hnonneg => by omega
  · have hsplit : pow10 j * pow10 e.toNat = pow10 (j + e.toNat) := (pow10_add j e.toNat).symm
    have hsum := log2_add_log2_le (Nat.ne_of_gt (pow10_pos j)) (Nat.ne_of_gt (pow10_pos e.toNat))
    have hlog := log2_pow10_le (n := j + e.toNat) (by omega)
    rw [hsplit] at hsum
    refine isSome_scaledByTen?_of_le (k := (pow10 j).log2 + 1) ?_ (by omega) fun _ => by omega
    exact Nat.le_trans hdigits (Nat.le_of_lt (lt_pow2_log2 (pow10 j)))

end Magnitude
end StageRelay
