import StageRelay.Json.Embedded
import StageRelay.Json.Print
import StageRelay.Proofs.Json.Composition
import StageRelay.Text.Utf8

/-!
# Documents in bytes

A value without numbers is read back from its text on one line, whatever the texts in it are: each
character is read back from the way in which it is written, be it as itself, by a short escape or by
its code.

A byte string holds a value when it is the text of a document that can be held in memory as that
value. There is one such value at most, and an object of texts is held by what it is written as.
-/

namespace StageRelay

namespace LiteralUnit

/-- The unit stands for a character, whatever comes behind it. A unit that is half of a pair stands
for none by itself. -/
def Spells (u : LiteralUnit) (c : Char) : Prop :=
  ∀ us, decode (u :: us) = (decode us).map (c :: ·)

theorem char_spells (c : Char) : (char c).Spells c := fun _ => rfl

/-- A code below the surrogates stands for its character. -/
theorem code_spells {c : Char} (h : c.toNat < 0xD800) : (code c.toNat).Spells c := by
  intro us
  have hsecond : isSecondHalf c.toNat = false := by
    simp [isSecondHalf]
    omega
  have hfirst : isFirstHalf c.toNat = false := by
    simp [isFirstHalf]
    omega
  rw [decode.eq_def]
  simp only [hsecond, hfirst, Char.ofNat_toNat]
  rfl

end LiteralUnit

namespace Json

def textMembers (members : List (String × String)) : List (Key × Json) :=
  members.map fun m => (.ok m.1, .string m.2)

/-! ## Strings -/

theorem hexDigit?_hexChar : ∀ n < 16, Text.hexDigit? (hexChar n) = some n := by
  decide

/-- The three ways in which a character is written: by a short escape, by its code, or as
itself. -/
theorem escapeChar_cases (c : Char) :
    (∃ e, escapeChar c = ['\\', e] ∧ LiteralUnit.shortEscape? e = some c) ∨
      (escapeChar c = ['\\', 'u', '0', '0', hexChar (c.toNat / 16), hexChar (c.toNat % 16)] ∧
        c.toNat < 32) ∨
      (escapeChar c = [c] ∧ c ≠ '"' ∧ c ≠ '\\' ∧ ¬ c < ' ') := by
  by_cases hshort : c ∈ ['"', '\\', '\n', '\r', '\t', '\x08', '\x0c']
  · left
    simp only [List.mem_cons, List.not_mem_nil, or_false] at hshort
    rcases hshort with rfl | rfl | rfl | rfl | rfl | rfl | rfl <;>
      exact ⟨_, rfl, rfl⟩
  · simp only [List.mem_cons, List.not_mem_nil, or_false, not_or] at hshort
    right
    by_cases hcontrol : c < ' '
    · left
      exact ⟨by simp [escapeChar, hshort, hcontrol], hcontrol⟩
    · right
      exact ⟨by simp [escapeChar, hshort, hcontrol], hshort.1, hshort.2.1, hcontrol⟩

/-- A character is written as one unit. -/
theorem spellsUnits_escapeChar (c : Char) :
    ∃ u : LiteralUnit, u.Spells c ∧ ∀ {cs us}, SpellsUnits cs us →
      SpellsUnits (escapeChar c ++ cs) (u :: us) := by
  rcases escapeChar_cases c with ⟨e, hescape, he⟩ | ⟨hescape, hcontrol⟩ |
    ⟨hescape, hquote, hslash, hprintable⟩
  · refine ⟨.char c, LiteralUnit.char_spells c, fun h => ?_⟩
    rw [hescape]
    exact .escape he h
  · have hhigh := hexDigit?_hexChar (c.toNat / 16) (by omega)
    have hlow := hexDigit?_hexChar (c.toNat % 16) (by omega)
    have hcode : ((0 * 16 + 0) * 16 + c.toNat / 16) * 16 + c.toNat % 16 = c.toNat := by omega
    have hzero : Text.hexDigit? '0' = some 0 := rfl
    refine ⟨.code c.toNat, LiteralUnit.code_spells (by omega), fun h => ?_⟩
    have hspells := SpellsUnits.code hzero hzero hhigh hlow h
    rw [hcode] at hspells
    rw [hescape]
    exact hspells
  · refine ⟨.char c, LiteralUnit.char_spells c, fun h => ?_⟩
    rw [hescape]
    exact .char hquote hslash (Char.not_lt.mp hprintable) h

/-- The inside of a literal spells the text that it is written for. -/
theorem spellsUnits_escaped (cs : List Char) :
    ∃ us, SpellsUnits (cs.flatMap escapeChar) us ∧ LiteralUnit.decode us = .ok cs := by
  induction cs with
  | nil => exact ⟨[], .nil, rfl⟩
  | cons c cs ih =>
      obtain ⟨us, hus, hdecode⟩ := ih
      obtain ⟨u, hu, hchar⟩ := spellsUnits_escapeChar c
      refine ⟨u :: us, hchar hus, ?_⟩
      rw [hu, hdecode]
      rfl

theorem isLiteralOf_literal (s : String) : IsLiteralOf (String.ofList (literal s)) s := by
  obtain ⟨us, hus, hdecode⟩ := spellsUnits_escaped s.toList
  refine ⟨[], s.toList.flatMap escapeChar, [], us, ?_, List.forall_mem_nil _, List.forall_mem_nil _,
    hus, ?_⟩
  · rw [String.toList_ofList]
    rfl
  · rw [LiteralUnit.text, hdecode]
    exact congrArg Except.ok String.ofList_toList

/-! ## Values on one line -/

mutual

/-- Whether there is no number inside and nothing faulty. -/
def isNumberless : Json → Bool
  | .null | .bool _ | .string _ => true
  | .array items => numberlessItems items
  | .object members => numberlessMembers members
  | .number _ | .faulty _ => false

def numberlessItems : List Json → Bool
  | [] => true
  | v :: vs => v.isNumberless && numberlessItems vs

def numberlessMembers : List (Key × Json) → Bool
  | [] => true
  | (k, v) :: ms => k.isOk && v.isNumberless && numberlessMembers ms

end

theorem numberlessItems_iff {vs : List Json} :
    numberlessItems vs = true ↔ ∀ v ∈ vs, v.isNumberless = true := by
  induction vs with
  | nil => exact iff_of_true rfl (List.forall_mem_nil _)
  | cons v vs ih => rw [numberlessItems, Bool.and_eq_true, ih, List.forall_mem_cons]

theorem isNumberless_record_iff {members : List (String × Json)} :
    (record members).isNumberless = true ↔ ∀ m ∈ members, m.2.isNumberless = true := by
  rw [record, isNumberless]
  induction members with
  | nil => exact iff_of_true rfl (List.forall_mem_nil _)
  | cons m members ih =>
      rw [List.map_cons, numberlessMembers, Bool.and_eq_true, ih, List.forall_mem_cons]
      rfl

mutual

theorem faultless_of_isNumberless {v : Json} (h : v.isNumberless = true) : v.faultless = true := by
  cases v with
  | array vs => exact faultlessItems_of_numberless h
  | object ms => exact faultlessMembers_of_numberless h
  | null | bool _ | string _ => rfl
  | number _ | faulty _ => cases h

theorem faultlessItems_of_numberless {vs : List Json} (h : numberlessItems vs = true) :
    faultlessItems vs = true := by
  cases vs with
  | nil => rfl
  | cons v vs =>
      rw [numberlessItems, Bool.and_eq_true] at h
      rw [faultlessItems, faultless_of_isNumberless h.1, faultlessItems_of_numberless h.2]
      rfl

theorem faultlessMembers_of_numberless {ms : List (Key × Json)}
    (h : numberlessMembers ms = true) : faultlessMembers ms = true := by
  cases ms with
  | nil => rfl
  | cons m ms =>
      obtain ⟨k, v⟩ := m
      rw [numberlessMembers, Bool.and_eq_true, Bool.and_eq_true] at h
      rw [faultlessMembers, h.1.1, faultless_of_isNumberless h.1.2,
        faultlessMembers_of_numberless h.2]
      rfl

end

mutual

/-- On one line nothing depends on the level. -/
theorem write_compact_eq (m n : Nat) (v : Json) :
    write .compact m v = write .compact n v := by
  cases v with
  | array items =>
      cases items with
      | nil => rfl
      | cons v vs =>
          rw [write, write, write_compact_eq (m + 1) (n + 1) v,
            writeItems_compact_eq (m + 1) (n + 1) vs]
          rfl
  | object members =>
      cases members with
      | nil => rfl
      | cons e ms =>
          obtain ⟨k, v⟩ := e
          rw [write, write, write_compact_eq (m + 1) (n + 1) v,
            writeMembers_compact_eq (m + 1) (n + 1) ms]
          rfl
  | null | bool _ | number _ | string _ | faulty _ => rfl

theorem writeItems_compact_eq (m n : Nat) (vs : List Json) :
    writeItems .compact m vs = writeItems .compact n vs := by
  cases vs with
  | nil => rfl
  | cons v vs =>
      rw [writeItems, writeItems, write_compact_eq m n v, writeItems_compact_eq m n vs]
      rfl

theorem writeMembers_compact_eq (m n : Nat) (ms : List (Key × Json)) :
    writeMembers .compact m ms = writeMembers .compact n ms := by
  cases ms with
  | nil => rfl
  | cons e ms =>
      obtain ⟨k, v⟩ := e
      rw [writeMembers, writeMembers, write_compact_eq m n v, writeMembers_compact_eq m n ms]
      rfl

end

theorem toList_compact (level : Nat) (v : Json) : write .compact level v = v.compact.toList := by
  rw [compact, String.toList_ofList]
  exact write_compact_eq level 0 v

/-- An array on one line is put together from its items on one line. -/
theorem compact_array (vs : List Json) : (array vs).compact = arrayText (vs.map compact) := by
  have hitems : ∀ vs, writeItems .compact 1 vs = vs.flatMap fun v => ',' :: v.compact.toList := by
    intro vs
    induction vs with
    | nil => rfl
    | cons v vs ih =>
        rw [writeItems, ih, toList_compact]
        rfl
  rw [← String.toList_inj, ← toList_compact 0]
  cases vs with
  | nil => rfl
  | cons v vs =>
      rw [write, toList_compact, hitems]
      simp [arrayText, toList_join_cons, List.flatMap_map, Layout.compact]

def compactMember (m : String × Json) : MemberText :=
  ⟨String.ofList (literal m.1), m.2.compact⟩

/-- A record on one line is put together from its members on one line. -/
theorem compact_record (members : List (String × Json)) :
    (record members).compact = objectText (members.map compactMember) := by
  have hmembers : ∀ members : List (String × Json),
      writeMembers .compact 1 (members.map fun m => (.ok m.1, m.2)) =
        members.flatMap fun m => ',' :: (literal m.1 ++ ':' :: m.2.compact.toList) := by
    intro members
    induction members with
    | nil => rfl
    | cons m members ih =>
        rw [List.map_cons, writeMembers, ih, toList_compact]
        simp [keyLiteral, Layout.compact]
  rw [← String.toList_inj, ← toList_compact 0, record]
  cases members with
  | nil => rfl
  | cons m members =>
      rw [List.map_cons, write, toList_compact, hmembers]
      simp [objectText, compactMember, toList_join_cons, List.flatMap_map, keyLiteral,
        Layout.compact]

mutual

/-- A value without numbers is read back from its text on one line. The induction is over the value,
with a statement of its own for items and for members. -/
theorem parse?_compact {v : Json} (h : v.isNumberless = true) : parse? v.compact = some v := by
  cases v with
  | null => rfl
  | bool b => cases b <;> rfl
  | string s => exact parse?_of_isLiteralOf (isLiteralOf_literal s)
  | array vs =>
      rw [compact_array]
      exact parse?_arrayText (parse?_compactItems h)
  | object ms =>
      obtain ⟨members, rfl, hmembers⟩ := parse?_compactMembers h
      rw [← record, compact_record]
      exact parse?_objectText hmembers
  | number _ | faulty _ => cases h

theorem parse?_compactItems {vs : List Json} (h : numberlessItems vs = true) :
    List.Forall₂ (fun t v => parse? t = some v) (vs.map compact) vs := by
  cases vs with
  | nil => exact .nil
  | cons v vs =>
      rw [numberlessItems, Bool.and_eq_true] at h
      exact .cons (parse?_compact h.1) (parse?_compactItems h.2)

theorem parse?_compactMembers {ms : List (Key × Json)} (h : numberlessMembers ms = true) :
    ∃ members : List (String × Json), ms = members.map (fun m => (.ok m.1, m.2)) ∧
      List.Forall₂ MemberText.Spells (members.map compactMember) members := by
  cases ms with
  | nil => exact ⟨[], rfl, .nil⟩
  | cons e ms =>
      obtain ⟨k, v⟩ := e
      rw [numberlessMembers, Bool.and_eq_true, Bool.and_eq_true] at h
      obtain ⟨members, rfl, hmembers⟩ := parse?_compactMembers h.2
      cases k with
      | error fault => cases h.1.1
      | ok name =>
          exact ⟨(name, v) :: members, rfl,
            .cons ⟨isLiteralOf_literal name, parse?_compact h.1.2⟩ hmembers⟩

end

/-- An object of texts is read back from its text on one line. -/
theorem parse?_compact_textMembers (members : List (String × String)) :
    parse? (object (textMembers members)).compact = some (object (textMembers members)) := by
  have hrecord : object (textMembers members) =
      record (members.map fun m => (m.1, .string m.2)) := by
    rw [record, List.map_map]
    rfl
  apply parse?_compact
  rw [hrecord, isNumberless_record_iff]
  exact List.forall_mem_map.mpr fun _ _ => rfl

/-! ## Documents that can be held -/

mutual

/-- Whether nothing inside is held as text: no object begins with the name for that. -/
def isPlain : Json → Bool
  | .array items => isPlainItems items
  | .object members => (embedded? members).isNone && isPlainMembers members
  | _ => true

def isPlainItems : List Json → Bool
  | [] => true
  | v :: vs => v.isPlain && isPlainItems vs

def isPlainMembers : List (Key × Json) → Bool
  | [] => true
  | (_, v) :: ms => v.isPlain && isPlainMembers ms

end

mutual

/-- What is plain stands for itself. -/
theorem resolve?_of_isPlain (read : String → Option Json) :
    ∀ v : Json, v.isPlain = true → v.resolve? read = some v
  | .array items, h => by
      rw [resolve?, resolveItems?_of_isPlain read items h]
      rfl
  | .object members, h => by
      rw [isPlain, Bool.and_eq_true, Option.isNone_iff_eq_none] at h
      rw [resolve?, h.1, resolveMembers?_of_isPlain read members h.2]
      rfl
  | .null, _ | .bool _, _ | .number _, _ | .string _, _ | .faulty _, _ => rfl

theorem resolveItems?_of_isPlain (read : String → Option Json) :
    ∀ vs : List Json, isPlainItems vs = true → resolveItems? read vs = some vs
  | [], _ => rfl
  | v :: vs, h => by
      rw [isPlainItems, Bool.and_eq_true] at h
      rw [resolveItems?, resolve?_of_isPlain read v h.1, resolveItems?_of_isPlain read vs h.2]
      rfl

theorem resolveMembers?_of_isPlain (read : String → Option Json) :
    ∀ ms : List (Key × Json), isPlainMembers ms = true → resolveMembers? read ms = some ms
  | [], _ => rfl
  | (k, v) :: ms, h => by
      rw [isPlainMembers, Bool.and_eq_true] at h
      rw [resolveMembers?, resolve?_of_isPlain read v h.1,
        resolveMembers?_of_isPlain read ms h.2]
      rfl

end

/-- A plain document is held as it is, if it can be held at all. -/
theorem held?_of_isPlain {text : String} {v : Json} (h : parse? text = some v)
    (hplain : v.isPlain = true) : held? text = if v.isSound then some v else none := by
  rw [held?, heldWithin?, h, Option.filter_some]
  split
  next => exact resolve?_of_isPlain _ v hplain
  next => rfl

/-! ## Sound values -/

/-- The value can be held as a part of an array or an object, where one level of the depth is used
up already. -/
structure IsSoundInside (v : Json) : Prop where
  faultless : v.faultless = true
  depth : v.depth < maxDepth

theorem IsSoundInside.isSound {v : Json} (h : v.IsSoundInside) : v.isSound = true :=
  isSound_iff.mpr ⟨h.faultless, Nat.le_of_lt h.depth⟩

theorem isSound_array_iff {items : List Json} :
    (array items).isSound = true ↔ ∀ v ∈ items, v.IsSoundInside := by
  rw [isSound_iff, Json.faultless, Json.depth, Nat.succ_le_iff, faultlessItems_iff,
    depthOfItems_lt_iff (by decide)]
  exact ⟨fun h v hv => ⟨h.1 v hv, h.2 v hv⟩,
    fun h => ⟨fun v hv => (h v hv).faultless, fun v hv => (h v hv).depth⟩⟩

theorem isSound_object_iff {members : List (Key × Json)} :
    (object members).isSound = true ↔ ∀ m ∈ members, m.1.isOk = true ∧ m.2.IsSoundInside := by
  rw [isSound_iff, Json.faultless, Json.depth, Nat.succ_le_iff, faultlessMembers_iff,
    depthOfMembers_lt_iff (by decide)]
  exact ⟨fun h m hm => ⟨(h.1 m hm).1, (h.1 m hm).2, h.2 m hm⟩,
    fun h => ⟨fun m hm => ⟨(h m hm).1, (h m hm).2.faultless⟩, fun m hm => (h m hm).2.depth⟩⟩

/-- The names of a record are all sound. -/
theorem isSound_record_iff {members : List (String × Json)} :
    (record members).isSound = true ↔ ∀ e ∈ members, e.2.IsSoundInside := by
  rw [record, isSound_object_iff, List.forall_mem_map]
  exact forall₂_congr fun _ _ => and_iff_right rfl

/-! ## Objects of texts in memory -/

theorem isPlainMembers_textMembers (members : List (String × String)) :
    isPlainMembers (textMembers members) = true := by
  induction members with
  | nil => rfl
  | cons m members ih => exact ih

theorem isSound_textMembers (members : List (String × String)) :
    (object (textMembers members)).isSound = true := by
  rw [isSound_object_iff, textMembers, List.forall_mem_map]
  exact fun _ _ => ⟨rfl, rfl, Nat.succ_pos 126⟩

/-- The text of an object of texts holds it, unless its first name says that a value follows as
text. -/
theorem held?_compact_textMembers {members : List (String × String)}
    (h : ∀ m ∈ members.head?, m.1 ≠ embeddedKey) :
    held? (object (textMembers members)).compact = some (object (textMembers members)) := by
  have hfirst : embedded? (textMembers members) = none := by
    cases members with
    | nil => rfl
    | cons m members => exact if_neg (h m rfl)
  have hplain : (object (textMembers members)).isPlain = true := by
    rw [isPlain, hfirst, isPlainMembers_textMembers]
    rfl
  rw [held?_of_isPlain (parse?_compact_textMembers members) hplain,
    if_pos (isSound_textMembers members)]

/-! ## Bytes -/

/-- The bytes are the text of a document that is held in memory as the value. -/
def IsHeldBy (v : Json) (bytes : ByteArray) : Prop :=
  ∃ text : String, text.toUTF8 = bytes ∧ held? text = some v

theorem isHeldBy_compact_textMembers {members : List (String × String)}
    (h : ∀ m ∈ members.head?, m.1 ≠ embeddedKey) :
    (object (textMembers members)).IsHeldBy (object (textMembers members)).compact.toUTF8 :=
  ⟨_, rfl, held?_compact_textMembers h⟩

theorem isHeldBy_iff {v : Json} {bytes : ByteArray} :
    v.IsHeldBy bytes ↔ (String.fromUTF8? bytes).bind held? = some v := by
  rw [Option.bind_eq_some_iff]
  exact exists_congr fun text => and_congr_left' Utf8.fromUTF8?_eq_some_iff.symm

theorem isHeldBy_toUTF8_iff {text : String} {v : Json} :
    v.IsHeldBy text.toUTF8 ↔ held? text = some v := by
  rw [isHeldBy_iff, Utf8.fromUTF8?_eq_some_iff.mpr rfl, Option.bind_some]

/-- What a plain document spells is what it holds, unless this is too deep or has something faulty
in it. -/
theorem isHeldBy_of_isPlain {text : String} {v : Json} (h : parse? text = some v)
    (hsound : v.isSound = true) (hplain : v.isPlain = true) : v.IsHeldBy text.toUTF8 := by
  rw [isHeldBy_toUTF8_iff, held?_of_isPlain h hplain, if_pos hsound]

/-- A text that holds something is a document that could be held as it is, and it holds nothing
else if it is plain. -/
theorem IsHeldBy.exists_sound {text : String} {v : Json} (h : v.IsHeldBy text.toUTF8) :
    ∃ document, parse? text = some document ∧ document.isSound = true ∧
      (document.isPlain = true → v = document) := by
  rw [isHeldBy_toUTF8_iff, held?, heldWithin?, Option.bind_eq_some_iff] at h
  obtain ⟨document, hdocument, hresolve⟩ := h
  obtain ⟨hparse, hsound⟩ := Option.filter_eq_some_iff.mp hdocument
  refine ⟨document, hparse, hsound, fun hplain => ?_⟩
  rw [resolve?_of_isPlain _ document hplain] at hresolve
  exact (Option.some.inj hresolve).symm

/-- Bytes hold one value at most, so that it makes sense to speak of the value that they hold. -/
theorem IsHeldBy.eq {v w : Json} {bytes : ByteArray} (hv : v.IsHeldBy bytes)
    (hw : w.IsHeldBy bytes) : v = w :=
  Option.some.inj ((isHeldBy_iff.mp hv).symm.trans (isHeldBy_iff.mp hw))

end Json
end StageRelay
