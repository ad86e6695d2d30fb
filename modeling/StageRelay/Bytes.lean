/-!
# Bytes

Byte strings are equal when they have the same bytes, and this is decided byte by
byte.
-/

namespace StageRelay

/-- Equality of byte strings. -/
instance decidableEqBytes : DecidableEq ByteArray := ByteArray.instDecidableEq

theorem beq_bytes_iff {a b : ByteArray} : (a == b) = true ↔ a = b := by
  rw [ByteArray.ext_iff]
  exact beq_iff_eq (a := a.data) (b := b.data)

theorem beq_some_bytes_iff {a : Option ByteArray} {b : ByteArray} :
    (a == some b) = true ↔ a = some b := by
  cases a with
  | none => exact iff_of_false Bool.false_ne_true (Option.some_ne_none b).symm
  | some a => exact beq_bytes_iff.trans Option.some_inj.symm

end StageRelay
