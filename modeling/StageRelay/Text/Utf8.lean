/-!
# Text held in bytes

Bytes are read as UTF-8 in two ways. Strictly, with `String.fromUTF8?`, which
refuses bytes that are not UTF-8. Leniently, with `lossy`: each maximal part of
a sequence that cannot be completed is shown as one replacement character, so
every byte string has a text, and valid text is shown as it is.
-/

namespace StageRelay.Utf8

def replacement : Char := '\ufffd'

/-- The smallest and largest byte that may follow a lead byte of a sequence of
two or more bytes, and how many bytes follow it in all; none when the byte
starts no such sequence. -/
def lead? (b : UInt8) : Option (UInt8 × UInt8 × Nat) :=
  if 0xC2 ≤ b ∧ b ≤ 0xDF then some (0x80, 0xBF, 1)
  else if b = 0xE0 then some (0xA0, 0xBF, 2)
  else if b = 0xED then some (0x80, 0x9F, 2)
  else if 0xE1 ≤ b ∧ b ≤ 0xEF then some (0x80, 0xBF, 2)
  else if b = 0xF0 then some (0x90, 0xBF, 3)
  else if 0xF1 ≤ b ∧ b ≤ 0xF3 then some (0x80, 0xBF, 3)
  else if b = 0xF4 then some (0x80, 0x8F, 3)
  else none

/-- The bits that a lead byte contributes to its code point. -/
def leadBits (b : UInt8) (following : Nat) : Nat :=
  b.toNat % Nat.pow 2 (6 - following)

/-- A sequence under way: the code point so far, the bytes still owed, and the
range of the next one. -/
structure Pending where
  code : Nat
  owed : Nat
  low : UInt8
  high : UInt8
deriving DecidableEq, Repr

/-- What one byte means when no sequence is under way: the characters it shows
and the sequence that it starts. -/
def fresh (b : UInt8) : List Char × Option Pending :=
  if b < 0x80 then ([Char.ofNat b.toNat], none)
  else
    match lead? b with
    | some (low, high, n) => ([], some ⟨leadBits b n, n, low, high⟩)
    | none => ([replacement], none)

/-- What one byte means inside a sequence. A byte that does not continue the
sequence ends it, shown as one replacement, and starts afresh. -/
def resume (p : Pending) (b : UInt8) : List Char × Option Pending :=
  if p.low ≤ b ∧ b ≤ p.high then
    let code := p.code * 64 + b.toNat % 64
    if p.owed ≤ 1 then ([Char.ofNat code], none)
    else ([], some ⟨code, p.owed - 1, 0x80, 0xBF⟩)
  else
    let (shown, next) := fresh b
    (replacement :: shown, next)

/-- The characters shown for bytes that come in some state of a sequence. A sequence
that the end of the bytes cuts off is shown as one replacement. -/
def lossyFrom : Option Pending → List UInt8 → List Char
  | none, [] => []
  | some _, [] => [replacement]
  | none, b :: bs => (fresh b).1 ++ lossyFrom (fresh b).2 bs
  | some p, b :: bs => (resume p b).1 ++ lossyFrom (resume p b).2 bs

/-- The bytes as text, with one replacement character for each maximal part of
a sequence that cannot be completed. -/
def lossy (bytes : ByteArray) : String :=
  match String.fromUTF8? bytes with
  | some text => text
  | none => String.ofList (lossyFrom none bytes.data.toList)

theorem fromUTF8?_eq_some_iff {bytes : ByteArray} {text : String} :
    String.fromUTF8? bytes = some text ↔ text.toUTF8 = bytes := by
  rw [String.fromUTF8?]
  constructor
  · intro h
    split at h
    next => exact Option.some.inj h ▸ rfl
    next => cases h
  · rintro rfl
    exact dif_pos text.isValidUTF8

/-- Valid text is shown as it is. Replacements stand for bytes that are no text, and
there are none. -/
@[simp] theorem lossy_toUTF8 (text : String) : lossy text.toUTF8 = text := by
  rw [lossy, fromUTF8?_eq_some_iff.mpr rfl]

end StageRelay.Utf8
