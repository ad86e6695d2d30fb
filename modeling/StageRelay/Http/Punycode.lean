import StageRelay.Text.Ascii

/-!
# Labels of host names beyond ASCII

A label that has characters beyond ASCII is written in ASCII: first its ASCII
characters, then a hyphen if there are any, then the others in ascending order.
Of each one only the distance from the last one is written, counted in pairs of
a character and a place in the label, as a number of variable length in base 36.
The weights of its digits follow a bias that adapts to the distances seen so far.
Reading such a label inserts the characters one after the other where the distances
say.
-/

namespace StageRelay.Punycode

def digitChar (d : Nat) : Char :=
  if d < 26 then Char.ofNat ('a'.toNat + d) else Char.ofNat ('0'.toNat + (d - 26))

/-- The least digit that does not end a number, at a position that is counted in
steps of 36. -/
def threshold (position bias : Nat) : Nat := min 26 (max 1 (position - bias))

theorem threshold_pos (position bias : Nat) : 0 < threshold position bias := by
  unfold threshold
  omega

/-- The digits of a number from a position on. -/
def digits (bias : Nat) (position n : Nat) : List Char :=
  let t := threshold position bias
  if n < t then [digitChar n]
  else digitChar (t + (n - t) % (36 - t)) :: digits bias (position + 36) ((n - t) / (36 - t))
termination_by n
decreasing_by
  have := threshold_pos position bias
  have := Nat.div_le_self (n - threshold position bias) (36 - threshold position bias)
  omega

/-- The bias that fits a distance: the number of divisions by 35 that bring it
down to 455, in steps of 36, and a share of what is left. -/
def biasOf (distance : Nat) (steps : Nat) : Nat :=
  if 455 < distance then biasOf (distance / 35) (steps + 36)
  else steps + 36 * distance / (distance + 38)
termination_by distance
decreasing_by omega

/-- The bias after a distance has been written, with the number of characters
written by then. The first distance says little, as it starts from the end of
ASCII. -/
def adapt (distance written : Nat) (isFirst : Bool) : Nat :=
  let damped := if isFirst then distance / 700 else distance / 2
  biasOf (damped + damped / written) 0

/-- A label under way: the digits so far, the distance from the last character
written, the bias, and how many characters are written. -/
structure Progress where
  output : List Char
  distance : Nat
  bias : Nat
  written : Nat

/-- Passes over one character of the label while the code point `code` is
written. -/
def pass (basic code : Nat) (p : Progress) (c : Char) : Progress :=
  if c.toNat < code then { p with distance := p.distance + 1 }
  else if c.toNat = code then
    ⟨p.output ++ digits p.bias 36 p.distance, 0,
      adapt p.distance (p.written + 1) (p.written == basic), p.written + 1⟩
  else p

/-- Writes the code points of a list, in ascending order and without repetition;
`next` is the least code point that has not been looked at. -/
def writeCodes (label : List Char) (basic : Nat) : List Nat → Nat → Progress → Progress
  | [], _, p => p
  | code :: codes, next, p =>
    let start := { p with distance := p.distance + (code - next) * (p.written + 1) }
    let done := label.foldl (pass basic code) start
    writeCodes label basic codes (code + 1) { done with distance := done.distance + 1 }

def isAscii (c : Char) : Bool := c.toNat < 0x80

/-- The code points beyond ASCII, in ascending order and without repetition. -/
def codes (label : List Char) : List Nat :=
  (((label.filter (!isAscii ·)).map Char.toNat).mergeSort (· ≤ ·)).eraseDups

/-- A label in ASCII: its ASCII characters, a dash if there are any, and then where the
others stand and which they are. -/
def encode (label : List Char) : List Char :=
  let basic := label.filter isAscii
  let others := (writeCodes label basic.length (codes label) 0x80 ⟨[], 0, 72, basic.length⟩).output
  basic ++ (if basic.isEmpty then [] else ['-']) ++ others

def digitValue? (c : Char) : Option Nat :=
  if c.isLower then some (c.toNat - 'a'.toNat)
  else if c.isDigit then some (c.toNat - '0'.toNat + 26)
  else none

/-- A label that is being read: the characters so far, the code point and the place
where the next distance starts, the bias, and of the distance that is being read its
value so far and the position and the weight of its next digit. -/
structure Reading where
  output : List Char
  code : Nat
  place : Nat
  bias : Nat
  distance : Nat
  position : Nat
  weight : Nat

def Reading.start (basic : List Char) : Reading := ⟨basic, 0x80, 0, 72, 0, 36, 1⟩

/-- The character of a code point; half of a pair is none. -/
def char? (n : Nat) : Option Char := if n.isValidChar then some (Char.ofNat n) else none

/-- Inserts the character that the distance read so far leads to. -/
def Reading.insert? (r : Reading) : Option Reading := do
  let places := r.output.length + 1
  let code := r.code + (r.place + r.distance) / places
  let place := (r.place + r.distance) % places
  let bias := adapt r.distance places (r.place == 0)
  return ⟨r.output.insertIdx place (← char? code), code, place + 1, bias, 0, 36, 1⟩

/-- Reads one digit. A digit below the threshold ends the number and inserts a
character; numbers that need more than 32 bits are not read. -/
def Reading.digit? (r : Reading) (c : Char) : Option Reading := do
  let d ← digitValue? c
  let t := threshold r.position r.bias
  let r := { r with distance := r.distance + d * r.weight }
  if UInt32.size ≤ r.place + r.distance then none
  else if d < t then r.insert?
  else if UInt32.size ≤ r.weight * (36 - t) then none
  else return { r with position := r.position + 36, weight := r.weight * (36 - t) }

/-- The ASCII characters of an encoded label and its digits. The last hyphen divides
them, unless nothing stands before it. -/
def cutBasic (cs : List Char) : List Char × List Char :=
  let digits := (cs.reverse.takeWhile (· != '-')).reverse
  let basic := cs.take (cs.length - digits.length - 1)
  if basic.isEmpty then ([], cs) else (basic, digits)

/-- The label that is encoded in ASCII. Every character of the text must be read, and
the last number must have come to its end. -/
def decode? (cs : List Char) : Option (List Char) := do
  let (basic, digits) := cutBasic cs
  let r ← digits.foldlM Reading.digit? (Reading.start basic)
  if r.position = 36 then some r.output else none

end StageRelay.Punycode
