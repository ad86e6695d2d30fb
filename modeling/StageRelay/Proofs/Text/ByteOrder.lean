import Mathlib.Data.List.Lex
import Mathlib.Tactic.SplitIfs
import StageRelay.SortedMap

/-!
# The order of texts is the order of their bytes

Texts are compared by their code points. In UTF-8 the first byte of a character grows with the
number of bytes that follow it, and of two characters with equally many bytes the one with the
greater code point has the greater byte where they first differ. So the bytes of a greater
character are greater no matter what comes after either of them, and comparing texts by their
bytes gives the same order.
-/

namespace StageRelay

namespace Text

def bytes (s : String) : List UInt8 := s.toUTF8.data.toList

theorem bytes_eq_flatMap (s : String) : bytes s = s.toList.flatMap String.utf8EncodeChar := by
  have hbytes : s.toByteArray = s.toList.utf8Encode := by
    rw [← String.toByteArray_ofList, String.ofList_toList]
  show s.toByteArray.data.toList = _
  rw [hbytes]
  exact List.toList_data_toByteArray

private theorem ofNat_cons_lt_iff {a b : Nat} (ha : a < 256) (hb : b < 256) (l m : List UInt8) :
    UInt8.ofNat a :: l < UInt8.ofNat b :: m ↔ a < b ∨ a = b ∧ l < m := by
  rw [List.cons_lt_cons_iff, UInt8.lt_iff_toNat_lt, ← UInt8.toNat_inj, UInt8.toNat_ofNat',
    UInt8.toNat_ofNat', Nat.mod_eq_of_lt ha, Nat.mod_eq_of_lt hb]

/-- The bytes of a greater character are greater, whatever comes after them. -/
theorem encodeChar_append_lt {c d : Char} (h : c < d) (l m : List UInt8) :
    String.utf8EncodeChar c ++ l < String.utf8EncodeChar d ++ m := by
  have hlt : c.val.toNat < d.val.toNat := h
  have hmax : d.val.toNat < 0x110000 := by
    have hvalid := d.valid
    simp only [UInt32.isValidChar, Nat.isValidChar] at hvalid
    omega
  -- every byte but the first holds six bits, so the others hold what division by 64 leaves
  have hshift : ∀ n, n / 4096 = n / 64 / 64 ∧ n / 262144 = n / 64 / 64 / 64 := by
    intro n
    simp only [Nat.div_div_eq_div_mul, and_self]
  simp only [String.utf8EncodeChar, (hshift _).1, (hshift _).2]
  generalize c.val.toNat = a at hlt ⊢
  generalize d.val.toNat = b at hlt hmax ⊢
  split_ifs
  all_goals
    simp (disch := omega) only [List.cons_append, List.nil_append, ofNat_cons_lt_iff]
    omega

theorem flatMap_encodeChar_lt {cs ds : List Char} (h : cs < ds) :
    cs.flatMap String.utf8EncodeChar < ds.flatMap String.utf8EncodeChar := by
  induction h with
  | @nil d ds =>
      rw [List.flatMap_nil, List.flatMap_cons]
      cases hd : String.utf8EncodeChar d with
      | nil => exact absurd hd String.utf8EncodeChar_ne_nil
      | cons b bs => exact List.Lex.nil
  | cons _ ih => exact List.Lex.append_left _ ih _
  | rel h =>
      rw [List.flatMap_cons, List.flatMap_cons]
      exact encodeChar_append_lt h _ _

/-- Texts are in the order of their bytes, since the bytes of a character are in the order of the
characters. -/
theorem compare_eq_lt_iff_bytes_lt {s t : String} : compare s t = .lt ↔ bytes s < bytes t := by
  have hmono : ∀ {s t : String}, compare s t = .lt → bytes s < bytes t := by
    intro s t h
    have hlt : s < t := compareOfLessAndEq_eq_lt.mp h
    rw [bytes_eq_flatMap, bytes_eq_flatMap]
    exact flatMap_encodeChar_lt hlt
  refine ⟨hmono, fun h => ?_⟩
  cases hcompare : compare s t with
  | lt => rfl
  | eq =>
      obtain rfl := Std.LawfulEqCmp.eq_of_compare hcompare
      exact absurd h (List.lt_irrefl _)
  | gt => exact absurd h (List.lt_asymm (hmono (Std.OrientedCmp.lt_of_gt hcompare)))

/-- Different texts have different bytes. -/
theorem eq_of_bytes_le {s t : String} (h : bytes s ≤ bytes t) (h' : bytes t ≤ bytes s) : s = t := by
  cases hcompare : compare s t with
  | lt => exact absurd (compare_eq_lt_iff_bytes_lt.mp hcompare) h'
  | eq => exact Std.LawfulEqCmp.eq_of_compare hcompare
  | gt =>
      have hlt : bytes t < bytes s :=
        compare_eq_lt_iff_bytes_lt.mp (Std.OrientedCmp.lt_of_gt hcompare)
      exact absurd hlt h

end Text

end StageRelay
