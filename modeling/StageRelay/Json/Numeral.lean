import StageRelay.Json.Basic
import StageRelay.Text.Digits

/-!
# Numerals

The grammar of JSON numbers and the number that each numeral denotes. A numeral
without fraction and exponent denotes the integer it spells if that fits in 64
bits; every other one, and `-0`, denotes a binary fraction.

The fraction is computed from a significand of at most 64 bits: digits are taken
while they fit, later ones count only by their place.
-/

namespace StageRelay

/-- A numeral by its parts, before anything is computed from it. An exponent is a sign
(true for minus) and digits. -/
structure Numeral where
  negative : Bool
  whole : List Nat
  fraction : Option (List Nat)
  exponent : Option (Bool × List Nat)
deriving DecidableEq, Repr

namespace Numeral

open Text (digits digitsValue)

/-- An optional exponent that ends the text. -/
def exponentOf? : List Char → Option (Option (Bool × List Nat))
  | [] => some none
  | c :: cs =>
    if c = 'e' ∨ c = 'E' then
      let (minus, cs) :=
        match cs with
        | '-' :: r => (true, r)
        | '+' :: r => (false, r)
        | r => (false, r)
      match digits cs with
      | ([], _) => none
      | (ds, []) => some (some (minus, ds))
      | _ => none
    else none

/-- Reads a whole text as a numeral. A leading zero stands alone, and a point is
followed by a digit. -/
def ofChars? (cs : List Char) : Option Numeral :=
  let (negative, cs) :=
    match cs with
    | '-' :: r => (true, r)
    | r => (false, r)
  match digits cs with
  | ([], _) => none
  | (0 :: _ :: _, _) => none
  | (whole, '.' :: r) =>
    match digits r with
    | ([], _) => none
    | (fraction, r) => (exponentOf? r).map fun e => ⟨negative, whole, some fraction, e⟩
  | (whole, r) => (exponentOf? r).map fun e => ⟨negative, whole, none, e⟩

def maxSignificand : Nat := UInt64.size - 1

/-- Takes digits into a significand while it stays within 64 bits, and says how
many were left. -/
def accumulate (s : Nat) : List Nat → Nat × Nat
  | [] => (s, 0)
  | d :: ds =>
    if 10 * s + d ≤ maxSignificand then accumulate (10 * s + d) ds else (s, ds.length + 1)

/-- The magnitude of a numeral read as a binary fraction; none when it is too large.
Digits beyond the significand count by their place only. -/
def magnitude? (n : Numeral) : Option Magnitude :=
  let (s, dropped) := accumulate 0 n.whole
  let fraction := n.fraction.getD []
  let (s, unused) := accumulate s fraction
  let shift : Int := (dropped : Int) - ((fraction.length : Int) - unused)
  let e : Int :=
    match n.exponent with
    | none => 0
    | some (minus, ds) => if minus then -(digitsValue ds : Int) else digitsValue ds
  Magnitude.scaledByTen? s (shift + e)

/-- The integer that a numeral without fraction and exponent spells, if it fits in 64
bits. Negative zero is no integer, since it would lose its sign. -/
def integer? (n : Numeral) : Option Int :=
  if n.fraction.isSome || n.exponent.isSome then none
  else
    let v := digitsValue n.whole
    if n.negative then
      if 0 < v ∧ v ≤ UInt64.size / 2 then some (-(v : Int)) else none
    else if v ≤ maxSignificand then some v
    else none

/-- The value that a numeral denotes. One that is too large for every finite number is a
fault and not an error of the whole text. -/
def toJson (n : Numeral) : Json :=
  match n.integer? with
  | some i => .number (.integer i)
  | none =>
    match n.magnitude? with
    | some m => .number (.real ⟨n.negative, m⟩)
    | none => .faulty .numberOutOfRange

end Numeral

end StageRelay
