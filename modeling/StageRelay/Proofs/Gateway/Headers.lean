import Mathlib.Data.List.Induction
import StageRelay.Proofs.CommandLine.RequestArguments
import StageRelay.Proofs.Lists

/-!
# Values that make a header

The fields of one name make one header: the texts of their values in the order of arrival, with a
separator between them. Which of the values have a text is decided for each value alone, and of the
values that may stand in a field these are the ones of ASCII. All others are left out, those that
are UTF-8 among them, so a header has all the text that arrived for it just when this is ASCII.
-/

namespace StageRelay

/-! ## Values with a text -/

namespace Http

def IsAscii (v : ByteArray) : Prop := ∀ b ∈ v.data, b < 0x80

instance (v : ByteArray) : Decidable (IsAscii v) := inferInstanceAs (Decidable (∀ b ∈ v.data, _))

variable {v : ByteArray}

theorem isVisibleByte_iff {b : UInt8} (h : isValueByte b = true) :
    isVisibleByte b = true ↔ b < 0x80 := by
  simp only [isValueByte, isVisibleByte, Bool.or_eq_true, beq_iff_eq, Bool.and_eq_true,
    decide_eq_true_eq, bne_iff_ne, ne_eq, ← UInt8.toNat_inj, UInt8.le_iff_toNat_le,
    UInt8.lt_iff_toNat_lt, UInt8.toNat_ofNat] at h ⊢
  omega

/-- A byte of ASCII is the one byte of a character. -/
theorem exists_char_of_lt {b : UInt8} (h : b < 0x80) :
    ∃ c : Char, c.utf8Size = 1 ∧ c.toUInt8 = b := by
  refine ⟨Char.ofUInt8 b, Char.utf8Size_eq_one_iff.mpr ?_, UInt8.toUInt8_toUInt32 b⟩
  show b.toUInt32 ≤ 127
  rw [UInt32.le_iff_toNat_le, UInt8.toNat_toUInt32]
  exact Nat.le_of_lt_succ (UInt8.lt_iff_toNat_lt.mp h)

theorem IsAscii.isValidUTF8 (h : IsAscii v) : v.IsValidUTF8 := by
  obtain ⟨⟨bytes⟩⟩ := v
  induction bytes using List.reverseRecOn with
  | nil => exact ByteArray.isValidUTF8_empty
  | append_singleton bytes b ih =>
      have hb : b < 0x80 := h b (by simp)
      have hbytes : IsAscii ⟨⟨bytes⟩⟩ := fun a ha => h a (by simpa using .inl (by simpa using ha))
      obtain ⟨c, hsize, rfl⟩ := exists_char_of_lt hb
      have hpush : ByteArray.IsValidUTF8 ⟨bytes.toArray.push c.toUInt8⟩ := (ih hbytes).push hsize
      rwa [List.push_toArray] at hpush

/-- A value that may stand in a field has a text just when it is ASCII. That it is text in UTF-8 is
not enough. -/
theorem visibleText?_eq (h : isFieldValue v = true) :
    visibleText? v = if IsAscii v then String.fromUTF8? v else none := by
  have hvisible : v.data.all isVisibleByte = true ↔ IsAscii v := by
    rw [Array.all_eq_true_iff_forall_mem]
    exact forall₂_congr fun b hb => isVisibleByte_iff (Array.all_eq_true_iff_forall_mem.mp h b hb)
  rw [visibleText?]
  exact if_congr hvisible rfl rfl

theorem visibleText?_eq_none_iff (h : isFieldValue v = true) :
    visibleText? v = none ↔ ¬ IsAscii v := by
  rw [visibleText?_eq h]
  by_cases hv : IsAscii v
  · rw [if_pos hv, String.fromUTF8?, dif_pos hv.isValidUTF8]
    exact iff_of_false (Option.some_ne_none _) (not_not_intro hv)
  · rw [if_neg hv]
    exact iff_of_true rfl hv

end Http

/-! ## Texts in a row -/

namespace Inbound

/-- Texts as the value of one header, if there are any. -/
def joinTexts (texts : List String) : Option String :=
  if texts = [] then none else some (valueSeparator.intercalate texts)

variable {kept texts : List String}

theorem joinTexts_append_singleton (texts : List String) (text : String) :
    joinTexts (texts ++ [text]) = some (joined (joinTexts texts) text) := by
  rw [joinTexts, if_neg (List.append_ne_nil_of_right_ne_nil _ (List.cons_ne_nil _ _)), joinTexts]
  split
  next h =>
    rw [h, List.nil_append, String.intercalate_singleton]
    rfl
  next h =>
    rw [String.intercalate_append_of_ne_nil h (List.cons_ne_nil _ _), String.intercalate_singleton]
    rfl

theorem joinTexts_eq_none_iff : joinTexts texts = none ↔ texts = [] := by
  rw [joinTexts, ite_eq_left_iff]
  exact not_imp_comm.trans (forall_prop_of_true (Option.some_ne_none _))

def width : List String → Nat
  | [] => 0
  | text :: texts => text.length + valueSeparator.length + width texts

theorem length_intercalate (h : texts ≠ []) :
    (valueSeparator.intercalate texts).length + valueSeparator.length = width texts := by
  induction texts with
  | nil => exact absurd rfl h
  | cons text texts ih =>
      cases texts with
      | nil => rw [String.intercalate_singleton, width, width, Nat.add_zero]
      | cons next texts =>
          rw [width, ← ih (List.cons_ne_nil _ _), String.intercalate_cons_cons]
          simp only [String.length_append]
          omega

theorem eq_or_width_lt_of_sublist (h : kept.Sublist texts) :
    kept = texts ∨ width kept < width texts := by
  have hseparator : valueSeparator.length = 2 := by decide
  induction h with
  | slnil => exact .inl rfl
  | cons text _ ih =>
      right
      rw [width]
      rcases ih with rfl | hlt <;> omega
  | cons_cons text _ ih =>
      refine ih.imp (congrArg (text :: ·)) fun hlt => ?_
      rw [width, width]
      exact Nat.add_lt_add_left hlt _

/-- Texts of which some were taken away do not make the same header. -/
theorem joinTexts_eq_iff_of_sublist (h : kept.Sublist texts) :
    joinTexts kept = joinTexts texts ↔ kept = texts := by
  refine ⟨fun heq => ?_, congrArg joinTexts⟩
  by_cases hkept : kept = []
  · rw [hkept] at heq ⊢
    exact (joinTexts_eq_none_iff.mp heq.symm).symm
  have htexts : texts ≠ [] := fun hnil => hkept (List.sublist_nil.mp (hnil ▸ h))
  have hwidth : width kept = width texts := by
    rw [joinTexts, if_neg hkept, joinTexts, if_neg htexts] at heq
    rw [← length_intercalate hkept, ← length_intercalate htexts, Option.some.inj heq]
  exact (eq_or_width_lt_of_sublist h).resolve_right (Nat.not_lt_of_le (Nat.le_of_eq hwidth.symm))

/-! ## Headers -/

/-- The values of the fields of a name, in whatever case of letters, in the order of arrival. -/
def valuesOf (fields : List (String × ByteArray)) (name : String) : List ByteArray :=
  (fields.filter fun f => Ascii.lower f.1 == Ascii.lower name).map Prod.snd

theorem valuesOf_append_singleton (fields : List (String × ByteArray)) (f : String × ByteArray)
    (name : String) :
    valuesOf (fields ++ [f]) name = valuesOf fields name ++
      if Ascii.lower f.1 = Ascii.lower name then [f.2] else [] := by
  rw [valuesOf, List.filter_append, List.map_append, List.filter_singleton, valuesOf]
  by_cases hname : Ascii.lower f.1 = Ascii.lower name
  · rw [if_pos hname, beq_iff_eq.mpr hname]
    rfl
  · rw [if_neg hname, beq_eq_false_iff_ne.mpr hname]
    rfl

/-- A header is made of the texts of its values, in the order of arrival. A value without text takes
no part, and leaves no separator either. -/
theorem get?_headersOf (fields : List (String × ByteArray)) (name : String) :
    (headersOf fields).get? (Ascii.lower name) =
      joinTexts ((valuesOf fields name).filterMap Http.visibleText?) := by
  induction fields using List.reverseRecOn with
  | nil => rfl
  | append_singleton fields f ih =>
      rw [headersOf_concat, valuesOf_append_singleton, List.filterMap_append, addField]
      by_cases hname : Ascii.lower f.1 = Ascii.lower name
      · rw [if_pos hname]
        cases ht : Http.visibleText? f.2 with
        | none => rw [List.filterMap_cons_none ht, List.filterMap_nil, List.append_nil, ← ih]
        | some text =>
            rw [List.filterMap_cons_some ht, List.filterMap_nil, joinTexts_append_singleton, ← ih,
              ← hname]
            exact SortedMap.get?_insert_self _ _ _
      · rw [if_neg hname, List.filterMap_nil, List.append_nil, ← ih]
        cases Http.visibleText? f.2 with
        | none => rfl
        | some text => exact SortedMap.get?_insert_of_ne _ _ (Ne.symm hname)

theorem header_toRequest (r : Inbound) (name : String) :
    r.toRequest.header name =
      joinTexts ((valuesOf r.fields name).filterMap Http.visibleText?) :=
  get?_headersOf r.fields name

/-- Where the fields have values that may stand in fields, a header is made of the values of its
name that are ASCII, in the order of arrival, and it is missing just when none of them is. So it is
made of all values that are UTF-8 just when these are ASCII. -/
theorem header_toRequest_eq_iff {r : Inbound}
    (hfields : ∀ f ∈ r.fields, Http.isFieldValue f.2 = true) (name : String) :
    let values := valuesOf r.fields name
    let header := r.toRequest.header name
    header = joinTexts ((values.filter fun v => Http.IsAscii v).filterMap String.fromUTF8?) ∧
    (header = none ↔ ∀ v ∈ values, ¬ Http.IsAscii v) ∧
    (header = joinTexts (values.filterMap String.fromUTF8?) ↔
      ∀ v ∈ values, v.IsValidUTF8 → Http.IsAscii v) := by
  intro values header
  have hvalues : ∀ v ∈ values, Http.isFieldValue v = true := by
    intro v hv
    obtain ⟨f, hf, rfl⟩ := List.mem_map.mp hv
    exact hfields f (List.mem_of_mem_filter hf)
  have hheader : header = joinTexts (values.filterMap Http.visibleText?) := header_toRequest r name
  have hkept : values.filterMap Http.visibleText? =
      (values.filter fun v => Http.IsAscii v).filterMap String.fromUTF8? := by
    rw [List.filterMap_filter]
    simp only [decide_eq_true_eq]
    exact List.filterMap_congr fun v hv => Http.visibleText?_eq (hvalues v hv)
  refine ⟨hheader.trans (congrArg joinTexts hkept), ?_, ?_⟩
  · rw [hheader, joinTexts_eq_none_iff, List.filterMap_eq_nil_iff]
    exact forall₂_congr fun v hv => Http.visibleText?_eq_none_iff (hvalues v hv)
  · rw [hheader, hkept, joinTexts_eq_iff_of_sublist (List.filter_sublist.filterMap _),
      filterMap_filter_eq_iff]
    refine forall₂_congr fun v _ => imp_congr ?_ decide_eq_true_iff
    rw [String.fromUTF8?, ne_eq, dite_eq_right_iff]
    simp

/-- Of three values, one of them beyond ASCII, two are left. -/
theorem header_toRequest_of_three :
    (⟨"GET", .path "/", [("Accept", "a/b".toUTF8), ("accept", "é".toUTF8), ("accept", "c".toUTF8)],
      .empty⟩ : Inbound).toRequest.header "ACCEPT" = some "a/b, c" :=
  (header_toRequest_eq_iff (by decide +kernel) "ACCEPT").1.trans (by decide +kernel)

/-- A value that may stand in a field and is UTF-8 can be left out. -/
theorem header_of_beyond_ascii :
    let r : Inbound := ⟨"GET", .path "/", [("x-name", "é".toUTF8)], .empty⟩
    (∀ f ∈ r.fields, Http.isFieldValue f.2 = true) ∧
      joinTexts ((valuesOf r.fields "x-name").filterMap String.fromUTF8?) = some "é" ∧
      r.toRequest.header "x-name" = none := by
  decide +kernel

end Inbound

end StageRelay
