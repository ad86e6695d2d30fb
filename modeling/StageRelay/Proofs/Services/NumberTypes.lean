import StageRelay.Proofs.Json.NumberSizes
import StageRelay.Proofs.Services.Wrapping

/-!
# The types of numbers

A property holds a number when the number is written as its value or as an item of the array that is
its value. The type of a number is decided by its form and its size: an integer is what is written
without fraction and exponent, is not a negative zero and fits in 64 bits. All other numbers are of
type double, whole ones too. A number that is larger than every finite one has no type, because the
payload it stands in cannot be read.
-/

namespace StageRelay

namespace Validation

open Numeral (Written)
open Json (held? parse? objectText arrayText MemberText)

def only (property : String) (type : DataType) : SortedMap String Rule :=
  .ofList [(property, ⟨some [type], none⟩)]

/-- The type of a number, unless it is too large to have one. -/
inductive HasType (w : Written) : DataType → Prop where
  | integer (h : w.IsMachineInteger) : HasType w .integer
  | double (h : ¬ w.IsMachineInteger) : HasType w .double

/-- The text is that of a number, or of an array with the number and other values in it, which are
listed. In both cases the number is one of the values of a property with this text. -/
inductive HoldsNumber (w : Written) : List Json → String → Prop where
  | alone : HoldsNumber w [] w.text
  | item {before after : List String} {bs as : List Json}
      (hbefore : List.Forall₂ (fun t u => held? t = some u) before bs)
      (hafter : List.Forall₂ (fun t u => held? t = some u) after as) :
      HoldsNumber w (bs ++ as) (arrayText (before ++ w.text :: after))

/-- The payload has the property, and its value is what the text holds. -/
def HasValueOf (payload : ByteArray) (property text : String) : Prop :=
  ∃ ps v, PropertiesOf payload ps ∧ ps.get? property = some v ∧ held? text = some v

/-- The member has a name of its own, and any value. -/
def IsApart (property : String) (m : MemberText) : Prop :=
  ∃ e, m.Spells e ∧ e.1 ≠ "properties" ∧ e.1 ≠ property

variable {explain : ByteArray → String} {rules : SortedMap String Rule} {payload : ByteArray}
variable {w : Written} {others vs : List Json} {v : Json} {property text name : String}
variable {type : DataType} {before after : List MemberText} {ps root : Properties}

/-! ## One rule -/

theorem get?_only (property : String) (type : DataType) (other : String) :
    (only property type).get? other =
      if property = other then some ⟨some [type], none⟩ else none := by
  rw [only, SortedMap.get?_ofList]
  by_cases h : property = other <;> simp [SortedMap.find?, h]

theorem accepts_only_iff : Rule.Accepts ⟨some [type], none⟩ vs ↔ ∀ u ∈ vs, u.dataType = type := by
  constructor
  · intro h u hu
    exact List.mem_singleton.mp (h.types [type] rfl u hu)
  · intro h
    refine ⟨?_, nofun⟩
    rintro _ ⟨⟩ u hu
    exact List.mem_singleton.mpr (h u hu)

/-- A payload with the property passes just when the values of the property have the type. -/
theorem validate_only_iff (hps : PropertiesOf payload ps) (hv : ps.get? property = some v) :
    validate explain (only property type) payload = .ok () ↔
      ∀ u ∈ values v, u.dataType = type := by
  rw [validate_eq_ok_iff]
  constructor
  · rintro ⟨ps', hps', hpasses⟩
    obtain rfl := hps.eq hps'
    exact accepts_only_iff.mp (hpasses property v hv _ (by rw [get?_only, if_pos rfl]))
  · intro h
    refine ⟨ps, hps, fun other u hu rule hrule => ?_⟩
    rw [get?_only] at hrule
    split at hrule
    next hother =>
      subst hother
      obtain rfl := Option.some.inj (hv.symm.trans hu)
      cases hrule
      exact accepts_only_iff.mpr h
    next => cases hrule

/-! ## The values of a property -/

/-- A number has the type of its form and size. -/
theorem dataType_eq_iff (hw : w.IsLiteral) (hv : held? w.text = some v) :
    v.dataType = type ↔ HasType w type := by
  rcases Json.number_of_held?_text hw hv with ⟨hmachine, rfl⟩ | ⟨hmachine, x, rfl⟩
  · constructor
    · rintro rfl
      exact .integer hmachine
    · rintro (_ | hdouble)
      · rfl
      · exact absurd hmachine hdouble
  · constructor
    · rintro rfl
      exact .double hmachine
    · rintro (hinteger | _)
      · exact absurd hinteger hmachine
      · rfl

theorem forall₂_held?_iff {texts : List String} {items : List Json} :
    List.Forall₂ (fun t u => held? t = some u) texts items ↔ texts.map held? = items.map some := by
  rw [← List.forall₂_eq_eq_eq, List.forall₂_map_left_iff, List.forall₂_map_right_iff]

theorem values_of_held?_text (hw : w.IsLiteral) (hv : held? w.text = some v) : values v = [v] := by
  rcases Json.number_of_held?_text hw hv with ⟨-, rfl⟩ | ⟨-, x, rfl⟩
  · rfl
  · rfl

/-- The values of the property are the number and the other ones. -/
theorem exists_values_perm (hw : w.IsLiteral) (h : HoldsNumber w others text)
    (hv : held? text = some v) :
    ∃ u, held? w.text = some u ∧ (values v).Perm (u :: others) := by
  cases h with
  | alone => exact ⟨v, hv, by rw [values_of_held?_text hw hv]⟩
  | @item before after bs as hbefore hafter =>
      obtain ⟨documents, hdocuments⟩ := Json.exists_documents_of_held? hbefore
      obtain ⟨documents', hdocuments'⟩ := Json.exists_documents_of_held? hafter
      obtain ⟨n, hn, -⟩ := Json.exists_parse?_text hw
      have htexts := List.rel_append hdocuments (.cons hn hdocuments')
      obtain ⟨items, rfl, hitems⟩ := Json.exists_items_of_held?_arrayText htexts hv
      rw [forall₂_held?_iff] at hbefore hafter hitems
      rw [List.map_append, List.map_cons, hbefore, hafter] at hitems
      have hmem : held? w.text ∈ items.map some := by
        rw [← hitems]
        simp
      obtain ⟨u, -, hu⟩ := List.mem_map.mp hmem
      rw [← hu, ← List.map_cons, ← List.map_append] at hitems
      have hvalues : bs ++ u :: as = items :=
        List.map_injective_iff.mpr (fun _ _ => Option.some.inj) hitems
      exact ⟨u, hu.symm, hvalues ▸ List.perm_middle⟩

/-- A number of another type is reported with its own. -/
theorem validate_only_of_number_alone {found : DataType} (hw : w.IsLiteral)
    (hps : PropertiesOf payload ps) (hv : ps.get? property = some v)
    (hheld : held? w.text = some v) (hfound : HasType w found) (hne : type ≠ found) :
    validate explain (only property type) payload = .error (.datatype property found [type]) := by
  have htype : v.dataType = found := (dataType_eq_iff hw hheld).mpr hfound
  subst htype
  have hoffends : Rule.Offends ⟨some [type], none⟩ property (values v)
      (.datatype property v.dataType [type]) := by
    have hvalues : values v = [] ++ v :: [] := values_of_held?_text hw hheld
    exact .datatype rfl hvalues (List.forall_mem_nil _)
      fun hmem => hne (List.mem_singleton.mp hmem).symm
  have hrule : (only property type).get? property = some ⟨some [type], none⟩ := by
    rw [get?_only, if_pos rfl]
  refine validate_eq_error_iff.mpr (.inr ⟨ps, property, hps, ⟨v, hv, _, hrule, hoffends⟩, ?_⟩)
  intro earlier u hlt hu rule hrule'
  rw [get?_only, if_neg] at hrule'
  · cases hrule'
  · rintro rfl
    simp at hlt

/-! ## Documents -/

/-- The text is that of a document, which is sound only if the number in it is held. -/
theorem exists_document_of_holdsNumber (hw : w.IsLiteral) (h : HoldsNumber w others text) :
    ∃ document, parse? text = some document ∧ (∀ s, document ≠ .string s) ∧
      (document.isSound = true → ∃ u, held? w.text = some u) := by
  obtain ⟨n, hn, -⟩ := Json.exists_parse?_text hw
  cases h with
  | alone =>
      exact ⟨n.toJson, hn, n.toJson_ne_string, Json.exists_held?_of_isSound hn⟩
  | item hbefore hafter =>
      obtain ⟨documents, hdocuments⟩ := Json.exists_documents_of_held? hbefore
      obtain ⟨documents', hdocuments'⟩ := Json.exists_documents_of_held? hafter
      refine ⟨_, Json.parse?_arrayText (List.rel_append hdocuments (.cons hn hdocuments')),
        fun s => Json.noConfusion, fun hsound => ?_⟩
      exact Json.exists_held?_of_isSound hn
        (Json.isSound_array_iff.mp hsound n.toJson (by simp)).isSound

/-- What a document holds under a name is what the text there holds. -/
theorem hasValueOf_iff (hw : w.IsLiteral) (h : HoldsNumber w others text)
    (hname : Json.IsLiteralOf name property) (hproperty : property ≠ "properties")
    (happart : ∀ m ∈ before ++ after, IsApart property m) :
    HasValueOf (objectText (before ++ ⟨name, text⟩ :: after)).toUTF8 property text ↔
      ∃ root, HoldsObject (objectText (before ++ ⟨name, text⟩ :: after)).toUTF8 root := by
  constructor
  · rintro ⟨ps, v, hps, -⟩
    cases hps with
    | bare hroot => exact ⟨_, hroot⟩
    | wrapped hroot => exact ⟨_, hroot⟩
    | encoded hroot => exact ⟨_, hroot⟩
  · rintro ⟨root, hroot⟩
    obtain ⟨document, hparse, hstring, -⟩ := exists_document_of_holdsNumber hw h
    obtain ⟨bs, as, hnames, hspells⟩ := exists_spells_between hname hparse happart
    have hrecord := Json.parse?_objectText hspells
    have hplain : ∀ s, bs ++ (property, document) :: as ≠ [(Json.embeddedKey, .string s)] := by
      intro s heq
      have hmem : (property, document) ∈ bs ++ (property, document) :: as := by simp
      rw [heq, List.mem_singleton] at hmem
      exact hstring s (congrArg Prod.snd hmem)
    obtain ⟨hbefore, hafter⟩ := List.forall_mem_append.mp hnames
    have hbare : ∀ e ∈ bs ++ (property, document) :: as, e.1 ≠ "properties" :=
      List.forall_mem_append.mpr ⟨fun e he => (hbefore e he).1,
        List.forall_mem_cons.mpr ⟨hproperty, fun e he => (hafter e he).1⟩⟩
    obtain ⟨v, hinside, hv, hget⟩ :=
      exists_get?_of_holdsObject hrecord hplain (fun e he => (hafter e he).2) hroot
    exact ⟨root, v, .bare hroot (get?_eq_none_of_holdsObject hrecord hplain hbare hroot), hget,
      Json.held?_of_document hparse hinside.isSound hv⟩

/-- A document in which a number is too large is not read. -/
theorem holdsNothing_of_unheld (hw : w.IsLiteral) (h : HoldsNumber w others text)
    (hnone : held? w.text = none) (hname : Json.IsLiteralOf name property)
    (happart : ∀ m ∈ before ++ after, IsApart property m) :
    HoldsNothing (objectText (before ++ ⟨name, text⟩ :: after)).toUTF8 := by
  rw [← held?_eq_none_iff, Option.eq_none_iff_forall_ne_some]
  intro v hv
  obtain ⟨document, hparse, -, hnumber⟩ := exists_document_of_holdsNumber hw h
  obtain ⟨bs, as, -, hspells⟩ := exists_spells_between hname hparse happart
  obtain ⟨_, hdocument, hsound, -⟩ := Json.exists_document_of_held? hv
  obtain rfl := Option.some.inj ((Json.parse?_objectText hspells).symm.trans hdocument)
  obtain ⟨u, hu⟩ := hnumber
    (Json.isSound_record_iff.mp hsound (property, document) (by simp)).isSound
  rw [hnone] at hu
  cases hu

/-- A held number can be the value of a property. -/
theorem hasValueOf_of_held (hw : w.IsLiteral) (hname : Json.IsLiteralOf name property)
    (hproperty : property ≠ "properties") (hkey : property ≠ Json.embeddedKey)
    (hheld : held? w.text ≠ none) :
    HasValueOf (objectText [⟨name, w.text⟩]).toUTF8 property w.text := by
  obtain ⟨v, hv⟩ := Option.ne_none_iff_exists'.mp hheld
  obtain ⟨n, hn, -⟩ := Json.exists_parse?_text hw
  have hinside := Json.canStandInside_of_held? hn (n.depth_toJson ▸ Nat.zero_le 126) hv
  have hmember : MemberText.Spells ⟨name, w.text⟩ (property, n.toJson) := ⟨hname, hn⟩
  have hfirst : ∀ m ∈ [(⟨name, w.text⟩ : MemberText)].head?,
      ¬ Json.IsLiteralOf m.name Json.embeddedKey := by
    rintro m ⟨⟩ hliteral
    exact hkey (hname.eq hliteral)
  have happart : ∀ m ∈ ([] ++ [] : List MemberText), IsApart property m :=
    List.forall_mem_nil (IsApart property)
  exact (hasValueOf_iff hw .alone hname hproperty happart).mpr
    (exists_holdsObject (.cons hmember .nil) (List.forall_mem_singleton.mpr hinside) hfirst)

/-- A property that holds a number, as its value or as one of its values, passes the rule that its
values are of one type just when this is the type of the number, and of the other values too. The
type is integer for the numbers without fraction and exponent that 64 bits can hold, and double for
all others, be they whole or not.

A property holds what is written in the document behind its name. A document cannot be read if there
is a number in it that is too large, which those with at most 307 digits before the point never
are. -/
theorem validate_only_of_number (explain : ByteArray → String) {w : Written} (hw : w.IsLiteral) :
    (w.IsMachineInteger → held? w.text = some (.number (.integer w.integer))) ∧
    (w.whole.length + w.power ≤ 307 → held? w.text ≠ none) ∧
    (∀ payload property text others, HoldsNumber w others text →
      HasValueOf payload property text → ∀ type,
        (validate explain (only property type) payload = .ok () ↔
          HasType w type ∧ ∀ u ∈ others, u.dataType = type)) ∧
    (∀ payload property, HasValueOf payload property w.text → ∀ type found,
      HasType w found → type ≠ found →
        validate explain (only property type) payload =
          .error (.datatype property found [type])) ∧
    (∀ name property text others before after, Json.IsLiteralOf name property →
      property ≠ "properties" → HoldsNumber w others text →
      (∀ m ∈ before ++ after, IsApart property m) →
        (HasValueOf (objectText (before ++ ⟨name, text⟩ :: after)).toUTF8 property text ↔
          ∃ root, HoldsObject (objectText (before ++ ⟨name, text⟩ :: after)).toUTF8 root) ∧
        (held? w.text = none →
          HoldsNothing (objectText (before ++ ⟨name, text⟩ :: after)).toUTF8)) ∧
    (∀ name property, Json.IsLiteralOf name property → property ≠ "properties" →
      property ≠ Json.embeddedKey → held? w.text ≠ none →
        HasValueOf (objectText [⟨name, w.text⟩]).toUTF8 property w.text) := by
  refine ⟨?_, ?_, ?_, ?_, ?_, ?_⟩
  · intro hmachine
    rcases Json.held?_text hw with ⟨-, hheld⟩ | ⟨hnot, -⟩
    · exact hheld
    · exact absurd hmachine hnot
  · intro hsize
    obtain ⟨v, hheld⟩ := Json.exists_held?_text_of_size hw hsize
    rw [hheld]
    exact Option.some_ne_none v
  · rintro payload property text others h ⟨ps, v, hps, hv, hheld⟩ type
    obtain ⟨u, hu, hperm⟩ := exists_values_perm hw h hheld
    rw [validate_only_iff hps hv]
    simp only [hperm.mem_iff, List.forall_mem_cons, dataType_eq_iff hw hu]
  · rintro payload property ⟨ps, v, hps, hv, hheld⟩ type found hfound hne
    exact validate_only_of_number_alone hw hps hv hheld hfound hne
  · intro name property text others before after hname hproperty h happart
    exact ⟨hasValueOf_iff hw h hname hproperty happart,
      fun hnone => holdsNothing_of_unheld hw h hnone hname happart⟩
  · intro name property hname hproperty hkey hheld
    exact hasValueOf_of_held hw hname hproperty hkey hheld

def largest : Written := ⟨false, "18446744073709551615".toList, none, none⟩

def beyondLargest : Written := ⟨false, "18446744073709551616".toList, none, none⟩

def negativeZero : Written := ⟨true, ['0'], none, none⟩

theorem isLiteral_of_digits {negative : Bool} {ds : List Char} (hds : Text.AreDigits ds)
    (hzero : ds.head? = some '0' → ds = ['0']) :
    Written.IsLiteral ⟨negative, ds, none, none⟩ :=
  ⟨hds, hzero, nofun, nofun⟩

theorem isLiteral_largest : largest.IsLiteral :=
  isLiteral_of_digits ⟨by decide, List.all_eq_true.mp rfl⟩ (by decide)

theorem isLiteral_beyondLargest : beyondLargest.IsLiteral :=
  isLiteral_of_digits ⟨by decide, List.all_eq_true.mp rfl⟩ (by decide)

theorem isLiteral_negativeZero : negativeZero.IsLiteral :=
  isLiteral_of_digits ⟨by decide, List.all_eq_true.mp rfl⟩ (by decide)

/-- The name of the property in the documents below. -/
theorem isLiteralOf_n : Json.IsLiteralOf "\"n\"" "n" := by
  have hname : "\"n\"" = String.ofList (Json.literal "n") := by decide +kernel
  rw [hname]
  exact Json.isLiteralOf_literal "n"

/-- The largest integer is one, also beside another integer in an array. -/
theorem validate_only_of_largest :
    validate (fun _ => "") (only "n" .integer) "\x7b\"n\":18446744073709551615\x7d".toUTF8 =
      .ok () ∧
    validate (fun _ => "") (only "n" .double) "\x7b\"n\":18446744073709551615\x7d".toUTF8 =
      .error (.datatype "n" .integer [.double]) ∧
    validate (fun _ => "") (only "n" .integer) "\x7b\"n\":[7,18446744073709551615]\x7d".toUTF8 =
      .ok () := by
  obtain ⟨hheld, -, hvalues, halone, hdocument, hmember⟩ :=
    validate_only_of_number (fun _ => "") isLiteral_largest
  have hmachine : largest.IsMachineInteger :=
    ⟨⟨rfl, rfl⟩, by decide, by decide, nofun⟩
  have hsingle : objectText [⟨"\"n\"", largest.text⟩] = "\x7b\"n\":18446744073709551615\x7d" := by
    decide +kernel
  have hn : HasValueOf (objectText [⟨"\"n\"", largest.text⟩]).toUTF8 "n" largest.text :=
    hmember _ _ isLiteralOf_n (by decide) (by decide) (by simp [hheld hmachine])
  rw [← hsingle]
  refine ⟨?_, halone _ _ hn _ _ (.integer hmachine) (by decide), ?_⟩
  · exact (hvalues _ _ _ _ .alone hn _).mpr ⟨.integer hmachine, nofun⟩
  · have harray : objectText [⟨"\"n\"", arrayText (["7"] ++ largest.text :: [])⟩] =
        "\x7b\"n\":[7,18446744073709551615]\x7d" := by decide +kernel
    have hseven : (held? "7").any (·.dataType == .integer) = true := by decide +kernel
    obtain ⟨u, hu, htype⟩ := (Option.any_eq_true _ _).mp hseven
    have hitems : HoldsNumber largest ([u] ++ []) (arrayText (["7"] ++ largest.text :: [])) :=
      .item (.cons hu .nil) .nil
    have hobject : (held? (objectText [⟨"\"n\"", arrayText (["7"] ++ largest.text :: [])⟩])).any
        isBareObject = true := by decide +kernel
    obtain ⟨v, hv, hbare⟩ := (Option.any_eq_true _ _).mp hobject
    cases v with
    | object ms =>
        have hroot := ((hdocument "\"n\"" "n" _ _ [] [] isLiteralOf_n (by decide) hitems
          nofun).1).mpr ⟨_, ms, Json.isHeldBy_toUTF8_iff.mpr hv, givenBy_ofMembers ms⟩
        rw [← harray]
        exact (hvalues _ _ _ _ hitems hroot _).mpr ⟨.integer hmachine, by simpa using htype⟩
    | _ => cases hbare

/-- Numbers without fraction and exponent that 64 bits cannot hold, and negative zeros, are not of
type integer. -/
theorem validate_only_of_whole_doubles :
    beyondLargest.IsLiteral ∧ beyondLargest.IsWhole ∧
    objectText [⟨"\"n\"", beyondLargest.text⟩] = "\x7b\"n\":18446744073709551616\x7d" ∧
    validate (fun _ => "") (only "n" .integer) "\x7b\"n\":18446744073709551616\x7d".toUTF8 =
      .error (.datatype "n" .double [.integer]) ∧
    negativeZero.IsLiteral ∧ negativeZero.IsWhole ∧
    objectText [⟨"\"n\"", negativeZero.text⟩] = "\x7b\"n\":-0\x7d" ∧
    validate (fun _ => "") (only "n" .integer) "\x7b\"n\":-0\x7d".toUTF8 =
      .error (.datatype "n" .double [.integer]) := by
  have hbeyond : objectText [⟨"\"n\"", beyondLargest.text⟩] =
      "\x7b\"n\":18446744073709551616\x7d" := by decide +kernel
  have hzero : objectText [⟨"\"n\"", negativeZero.text⟩] = "\x7b\"n\":-0\x7d" := by
    decide +kernel
  have hfails : ∀ w : Written, w.IsLiteral → ¬ w.IsMachineInteger → held? w.text ≠ none →
      validate (fun _ => "") (only "n" .integer) (objectText [⟨"\"n\"", w.text⟩]).toUTF8 =
        .error (.datatype "n" .double [.integer]) := by
    intro w hw hnot hheld
    obtain ⟨ps, v, hps, hv, hheld⟩ :=
      hasValueOf_of_held hw isLiteralOf_n (by decide) (by decide) hheld
    exact validate_only_of_number_alone hw hps hv hheld (.double hnot) (by decide)
  refine ⟨isLiteral_beyondLargest, ⟨rfl, rfl⟩, hbeyond, ?_, isLiteral_negativeZero, ⟨rfl, rfl⟩,
    hzero, ?_⟩
  · rw [← hbeyond]
    refine hfails beyondLargest isLiteral_beyondLargest (fun h => absurd h.below (by decide)) ?_
    exact Option.isSome_iff_ne_none.mp (by decide +kernel)
  · rw [← hzero]
    refine hfails negativeZero isLiteral_negativeZero
      (fun h => absurd (h.notNegativeZero rfl) (by decide)) ?_
    exact Option.isSome_iff_ne_none.mp (by decide +kernel)

end Validation
end StageRelay
