import StageRelay.Unicode.CodeTable

/-!
# Tables of replacements

A table gives the characters that stand in for a character. It is spelled by lines
of words with blanks between them. In `E0>61.300,61.301` the code points from
`E0` on stand for one sequence each. In `C0-D6>E0` the code points of a range are
shifted, `C0` to `E0` and so on, and in `100-12E/2>101` every second one of them
is.
-/

namespace StageRelay.Unicode

open Text (pieces)

/-- Code points at equal distances, and what the first of them stands for. Each other
one stands for the same, shifted as far as it is from the first, so that an alphabet
takes one line. -/
structure Replacement where
  low : Nat
  high : Nat
  step : Nat
  target : List Nat
deriving DecidableEq, Repr

namespace Replacement

def target? (r : Replacement) (n : Nat) : Option (List Nat) :=
  if r.low ≤ n ∧ n ≤ r.high ∧ (n - r.low) % r.step = 0 then
    some (r.target.map (· + (n - r.low)))
  else none

def sequence? (cs : List Char) : Option (List Nat) := (pieces '.' cs).mapM code?

/-- The replacements of code points from `low` on, one for each text. -/
def successive (low : Nat) : List (List Char) → List Replacement
  | [] => []
  | cs :: rest =>
    ((sequence? cs).map fun target => ⟨low, low, 1, target⟩).toList ++ successive (low + 1) rest

/-- The replacements that a word spells: a range of code points, the distance between
them, and what they stand for. -/
def ofWord (word : List Char) : List Replacement :=
  let (source, target) := (word.takeWhile (· != '>'), (word.dropWhile (· != '>')).drop 1)
  let (range, step) := (source.takeWhile (· != '/'), (source.dropWhile (· != '/')).drop 1)
  match ends? range, code? step with
  | some (low, high), some step =>
    if low < high then ((sequence? target).map (⟨low, high, max 1 step, ·⟩)).toList
    else successive low (pieces ',' target)
  | _, _ => []

def ofLines (lines : List String) : List Replacement :=
  lines.flatMap fun line => (pieces ' ' line.toList).flatMap ofWord

end Replacement

def replace? (table : List Replacement) (c : Char) : Option (List Char) :=
  (table.findSome? (·.target? c.toNat)).map (·.map Char.ofNat)

end StageRelay.Unicode
