/-!
# Numbers of 53 significant bits

A `Binary64` is a finite number of the 64-bit binary format: a sign, and a
magnitude `mantissa * 2 ^ exponent` with at most 53 bits of mantissa and an
exponent from -1074 to 971. `Magnitude.round?` takes the magnitude nearest to a
quotient of natural numbers, the one with the even mantissa when two are
equally near, and has no answer when the quotient is too large. Arithmetic is
exact on natural numbers throughout.
-/

namespace StageRelay

/-- The value `mantissa * 2 ^ exponent`. -/
structure Magnitude where
  mantissa : Nat
  exponent : Int
deriving DecidableEq, Repr, Inhabited

structure Binary64 where
  negative : Bool
  magnitude : Magnitude
deriving DecidableEq, Repr, Inhabited

namespace Magnitude

def pow2 (n : Nat) : Nat := Nat.pow 2 n

def pow10 (n : Nat) : Nat := Nat.pow 10 n

/-- The smallest exponent, that of the numbers nearest to zero. -/
def minExponent : Int := -1074

/-- The largest exponent of a finite number. -/
def maxExponent : Int := 971

def zero : Magnitude := ⟨0, minExponent⟩

def isZero (m : Magnitude) : Bool := m.mantissa == 0

/-- The quotient `num / den` rounded to a natural number. A half goes to the even one of
its two neighbours. -/
def roundHalfEven (num den : Nat) : Nat :=
  let q := num / den
  let r := num % den
  if 2 * r < den then q
  else if den < 2 * r then q + 1
  else if q % 2 = 0 then q else q + 1

/-- The quotient `num / den` divided by `2 ^ e`, as a pair of natural numbers. -/
def scale (num den : Nat) (e : Int) : Nat × Nat :=
  if 0 ≤ e then (num, den * pow2 e.toNat) else (num * pow2 (-e).toNat, den)

/-- The exponent at which `num / den` has 53 bits, or the smallest exponent if that is
larger; the number then has fewer bits than there is room for. -/
def exponentOf (num den : Nat) : Int :=
  let e := (Nat.log2 num : Int) - (Nat.log2 den : Int) - 52
  let (a, b) := scale num den e
  max (if a < pow2 52 * b then e - 1 else e) minExponent

/-- The magnitude nearest to `num / den`; none when it exceeds every finite
one. -/
def round? (num den : Nat) : Option Magnitude :=
  if num = 0 then some zero
  else
    let e := exponentOf num den
    let (a, b) := scale num den e
    let q := roundHalfEven a b
    let (m, e) := if q = pow2 53 then (pow2 52, e + 1) else (q, e)
    if maxExponent < e then none else some ⟨m, e⟩

/-- The value as a quotient of natural numbers. -/
def ratio (m : Magnitude) : Nat × Nat :=
  if 0 ≤ m.exponent then (m.mantissa * pow2 m.exponent.toNat, 1)
  else (m.mantissa, pow2 (-m.exponent).toNat)

def mul? (a b : Magnitude) : Option Magnitude :=
  round? (a.ratio.1 * b.ratio.1) (a.ratio.2 * b.ratio.2)

def div? (a b : Magnitude) : Option Magnitude :=
  round? (a.ratio.1 * b.ratio.2) (a.ratio.2 * b.ratio.1)

/-- The value nearest to a power of ten, for exponents up to 308. -/
def tenTo (n : Nat) : Magnitude := (round? (pow10 n) 1).getD zero

/-- The value of `significand * 10 ^ exponent`, computed in two roundings: the
significand is rounded, then multiplied or divided by a rounded power of ten.
Exponents below -308 are reached in steps of 308, so a tiny value may be rounded
once more. None when the result exceeds every finite magnitude. -/
def scaledByTen? (significand : Nat) (exponent : Int) : Option Magnitude := do
  go (← round? significand 1) exponent 4
where
  /-- Each step divides by `10 ^ 308`; a significand of 64 bits is zero after
  three of them. -/
  go (f : Magnitude) (e : Int) : Nat → Option Magnitude
    | 0 => some zero
    | steps + 1 =>
      if f.isZero then some f
      else if 308 < e then none
      else if 0 ≤ e then f.mul? (tenTo e.toNat)
      else if -308 ≤ e then f.div? (tenTo (-e).toNat)
      else (f.div? (tenTo 308)).bind fun f => go f (e + 308) steps

/-- The magnitude nearest to `digits * 10 ^ exponent`, rounded once. An exponent far
beyond the range decides without computing the power, so that no text makes for more
work than its length says. -/
def ofDecimal? (digits : Nat) (exponent : Int) : Option Magnitude :=
  if digits = 0 then some zero
  else if 400 < exponent then none
  else if 0 ≤ exponent then round? (digits * pow10 exponent.toNat) 1
  else if exponent < -(400 + (Nat.log2 digits : Int)) then some zero
  else round? digits (pow10 (-exponent).toNat)

end Magnitude

end StageRelay
