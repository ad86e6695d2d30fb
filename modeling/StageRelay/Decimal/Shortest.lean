import StageRelay.Decimal.Binary64

/-!
# The shortest decimal that reads back

A finite number is shown with the fewest significant digits whose decimal value
rounds to it; of several such decimals the one nearest to the number is taken.
The search runs over one, two, … seventeen digits and tests the two neighbours
of the number on each decimal grid, in exact arithmetic.
-/

namespace StageRelay

/-- The decimal `0.d₁d₂… * 10 ^ point`, with its digits as a natural number. -/
structure Decimal where
  digits : Nat
  exponent : Int
deriving DecidableEq, Repr, Inhabited

namespace Magnitude

/-- The ends of the interval of reals that round to `m`, as numerators over
`4 * 2 ^ k` with the denominator's last factor in `ratio`. The lower gap is
half as wide where the mantissa is the smallest of its exponent. -/
def interval (m : Magnitude) : (Nat × Nat) × Nat :=
  let low :=
    if m.mantissa = pow2 52 ∧ m.exponent ≠ minExponent then 4 * m.mantissa - 1
    else 4 * m.mantissa - 2
  let high := 4 * m.mantissa + 2
  if 0 ≤ m.exponent then ((low * pow2 m.exponent.toNat, high * pow2 m.exponent.toNat), 4)
  else ((low, high), 4 * pow2 (-m.exponent).toNat)

/-- Whether `num / den` rounds to `m`; the ends of the interval belong to it when
the mantissa is even. -/
def rounds (m : Magnitude) (num den : Nat) : Bool :=
  let ((low, high), scale) := m.interval
  if m.mantissa % 2 = 0 then low * den ≤ num * scale && num * scale ≤ high * den
  else low * den < num * scale && num * scale < high * den

/-- The number of decimal digits of a natural number; zero has none. -/
def decimalWidth (n : Nat) : Nat := if n = 0 then 0 else (Nat.toDigits 10 n).length

/-- The least `p` with `num / den < 10 ^ p`. -/
def decimalPoint (num den : Nat) : Int :=
  if den ≤ num then decimalWidth (num / den)
  else
    let k := decimalWidth (den / num)
    if num * pow10 k < den then -(k : Int)
    else if num * pow10 (k - 1) < den then -((k : Int) - 1)
    else -((k : Int) - 2)

/-- The candidate `d * 10 ^ k`, as a quotient of natural numbers, so that it can be
compared without rounding. -/
def candidate (d : Nat) (k : Int) : Nat × Nat :=
  if 0 ≤ k then (d * pow10 k.toNat, 1) else (d, pow10 (-k).toNat)

/-- Of the two grid points around the number with `n` significant digits, the
nearer one that rounds to it; the even one when both are equally near. -/
def onGrid? (m : Magnitude) (point : Int) (n : Nat) : Option Decimal :=
  let (num, den) := m.ratio
  let k := point - n
  let (a, b) := if 0 ≤ k then (num, den * pow10 k.toNat) else (num * pow10 (-k).toNat, den)
  let d := a / b
  let r := a % b
  let fits := fun d => d ≠ 0 && m.rounds (candidate d k).1 (candidate d k).2
  let nearer := if 2 * r < b then d else if b < 2 * r then d + 1
    else if d % 2 = 0 then d else d + 1
  let other := if nearer = d then d + 1 else d
  if fits nearer then some ⟨nearer, k⟩
  else if fits other then some ⟨other, k⟩
  else none

/-- The shortest decimal that rounds to the number, without trailing zeros. -/
def shortest (m : Magnitude) : Decimal :=
  if m.isZero then ⟨0, 0⟩
  else
    let point := decimalPoint m.ratio.1 m.ratio.2
    let found := (List.range 17).findSome? fun i => m.onGrid? point (i + 1)
    strip 20 (found.getD ⟨0, 0⟩)
where
  /-- Trailing zeros move into the exponent. -/
  strip : Nat → Decimal → Decimal
    | 0, d => d
    | fuel + 1, d =>
      if d.digits ≠ 0 ∧ d.digits % 10 = 0 then strip fuel ⟨d.digits / 10, d.exponent + 1⟩ else d

end Magnitude

namespace Binary64

/-- The exponents, of the leading digit, that are written without an exponent. -/
def positionalFrom : Int := -5
/-- The largest exponent that is written without an exponent. -/
def positionalTo : Int := 15

/-- The text of a magnitude: its shortest digits, positional when the leading digit
stands between the fifth place after the point and the sixteenth before it. It always
has a point or an exponent, so that it is not taken for a whole number. -/
def magnitudeText (m : Magnitude) : List Char :=
  if m.isZero then ['0', '.', '0']
  else
    let d := m.shortest
    let ds := Nat.toDigits 10 d.digits
    let lead : Int := d.exponent + ds.length - 1
    if positionalFrom ≤ lead ∧ lead ≤ positionalTo then
      if 0 ≤ d.exponent then ds ++ List.replicate d.exponent.toNat '0' ++ ['.', '0']
      else if 0 ≤ lead then
        ds.take (lead.toNat + 1) ++ '.' :: ds.drop (lead.toNat + 1)
      else '0' :: '.' :: (List.replicate (-lead - 1).toNat '0' ++ ds)
    else
      let significand :=
        match ds with
        | [] => []
        | [c] => [c]
        | c :: cs => c :: '.' :: cs
      let sign := if lead < 0 then '-' else '+'
      significand ++ 'e' :: sign :: Nat.toDigits 10 lead.natAbs

/-- The text of a number, with a sign when it is negative. Zero has a sign as well, so
that the two zeros are told apart. -/
def text (x : Binary64) : String :=
  String.ofList ((if x.negative then ['-'] else []) ++ magnitudeText x.magnitude)

end Binary64

end StageRelay
