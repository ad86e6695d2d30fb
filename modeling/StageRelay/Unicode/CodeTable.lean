import StageRelay.Text.Digits
import StageRelay.Text.Split

/-!
# Tables over code points

A property of characters is given by ranges of code points, each with the value
that its characters have in common; a character in no range has none. A table is
spelled by lines of words with blanks between them. A word is a range in
hexadecimal, `41-5A`, or a single code point, `B7`, and the text of a value may
follow after a colon, `41-5A:L`.
-/

namespace StageRelay.Unicode

open Text (pieces)

structure CodeRange (α : Type) where
  low : Nat
  high : Nat
  value : α
deriving DecidableEq, Repr

def CodeRange.contains {α : Type} (r : CodeRange α) (c : Char) : Bool :=
  r.low ≤ c.toNat && c.toNat ≤ r.high

/-- The values of a property of characters, by ranges of code points. Characters in no
range have none. -/
structure CodeTable (α : Type) where
  ranges : List (CodeRange α)
deriving DecidableEq, Repr

abbrev CodeSet : Type := CodeTable Unit

def code? (cs : List Char) : Option Nat :=
  cs.foldlM (fun n c => (Text.hexDigit? c).map (16 * n + ·)) 0

/-- The ends of the range that a text spells, which may also be a single code point. -/
def ends? (cs : List Char) : Option (Nat × Nat) :=
  match pieces '-' cs with
  | [a, b] => do return (← code? a, ← code? b)
  | _ => (code? cs).map fun n => (n, n)

namespace CodeTable

variable {α : Type}

def valueOf? (t : CodeTable α) (c : Char) : Option α :=
  (t.ranges.find? (·.contains c)).map (·.value)

def contains (t : CodeTable α) (c : Char) : Bool := t.ranges.any (·.contains c)

/-- The range that a word spells, with its value read by `value?`. -/
def range? (value? : List Char → Option α) (word : List Char) : Option (CodeRange α) := do
  let (low, high) ← ends? (word.takeWhile (· != ':'))
  return ⟨low, high, ← value? ((word.dropWhile (· != ':')).drop 1)⟩

def ofLines (value? : List Char → Option α) (lines : List String) : CodeTable α :=
  ⟨lines.flatMap fun line => (pieces ' ' line.toList).filterMap (range? value?)⟩

end CodeTable

def CodeSet.ofLines (lines : List String) : CodeSet :=
  CodeTable.ofLines (fun cs => if cs.isEmpty then some () else none) lines

end StageRelay.Unicode
