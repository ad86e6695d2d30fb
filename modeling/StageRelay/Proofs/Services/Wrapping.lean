import StageRelay.Proofs.Json.EmbeddedTexts
import StageRelay.Proofs.Services.Validation

/-!
# Properties under a wrapper

The properties of a document may stand under a member `properties` of another one, as an object or
as a text that is the document. Neither changes the answer, whatever is beside them, as long as the
document around them can be held in memory. Only one wrapper is taken off: a member `properties` of
the document inside is a property like any other.
-/

namespace StageRelay

namespace Validation

variable {explain : ByteArray → String} {rules : SortedMap String Rule} {payload : ByteArray}
variable {ps root : Properties} {fault : PayloadFault}

/-! ## Answers -/

def verdict (rules : SortedMap String Rule) (ps : Properties) : Answer :=
  match checkAll rules ps.toList with
  | .ok () => ⟨passStatus, .empty⟩
  | .error failure => ⟨failStatus, failure.message.toUTF8⟩

theorem handle_of_propertiesOf (explain : ByteArray → String) (rules : SortedMap String Rule)
    (h : PropertiesOf payload ps) : handle explain rules payload = verdict rules ps := by
  rw [handle, validate_of_propertiesOf explain rules h]
  rfl

/-- The wording of what is wrong with a property begins with the property. -/
theorem exists_message_of_fails {property : String} {v : Json} {failure : ValidationFailure}
    (h : FailsWith rules property v failure) :
    ∃ rest, failure.message = "property '" ++ rest := by
  obtain ⟨rule, -, hoffends⟩ := h
  cases hoffends with
  | @datatype allowed _ _ v =>
      refine ⟨property ++ ("' has a " ++ (v.dataType.name ++ (" value, expected " ++
        ValidationFailure.expected allowed))), ?_⟩
      simp only [← String.append_assoc]
      rfl
  | @cardinality bounds =>
      refine ⟨property ++ ("' has " ++ (toString (values v).length ++ (" values, allowed " ++
        bounds.description))), ?_⟩
      simp only [← String.append_assoc]
      rfl

/-- A payload without properties is not answered as if it had some. -/
theorem handle_ne_verdict (rules : SortedMap String Rule) (h : FaultOf explain payload fault)
    (ps : Properties) : handle explain rules payload ≠ verdict rules ps := by
  rw [handle, validate_of_faultOf rules h, verdict]
  cases hcheck : checkAll rules ps.toList with
  | ok => simp [failStatus, passStatus]
  | error failure =>
      obtain ⟨_, _, _, -, -, hfails⟩ := checkAll_eq_error_iff.mp hcheck
      obtain ⟨rest, hrest⟩ := exists_message_of_fails hfails
      intro heq
      have hmessage : "payload is not a property object: " ++ fault.message = failure.message :=
        String.toByteArray_inj.mp (Answer.mk.inj heq).2
      rw [hrest] at hmessage
      have hsecond := congrArg (fun s => s.toList[1]?) hmessage
      simp at hsecond

/-! ## Wrappers -/

/-- What stands under `properties`: the text of the document itself, or a literal for this text,
whatever escapes it has. -/
inductive Wraps (text : String) : String → Prop where
  | asObject : Wraps text text
  | asText {literal : String} (h : Json.parse? literal = some (.string text)) : Wraps text literal

def IsBeside (m : Json.MemberText) : Prop := ∃ e, m.Spells e ∧ e.1 ≠ "properties"

/-- The value of the member can be held inside a document. -/
def IsHeldInside (m : Json.MemberText) : Prop :=
  ∃ document v, Json.parse? m.value = some document ∧ document.depth ≤ 126 ∧
    Json.held? m.value = some v

variable {text inner name : String} {document : Json} {ms : List (Key × Json)}
variable {before after : List Json.MemberText}

/-- A name that no member has is not the name of a property. -/
theorem notMem_names {ms : List (Key × Json)} {name : String} (h : .ok name ∉ ms.map Prod.fst) :
    name ∉ (ms.filterMap fun m => m.1.toOption.map (·, m.2)).map Prod.fst := by
  intro hmem
  obtain ⟨⟨_, v⟩, hv, rfl⟩ := List.mem_map.mp hmem
  obtain ⟨⟨k, u⟩, hku, heq⟩ := List.mem_filterMap.mp hv
  cases k with
  | error fault => cases heq
  | ok k =>
      cases heq
      exact h (List.mem_map_of_mem hku)

theorem get?_ofMembers {before after : List (Key × Json)} {name : String} {v : Json}
    (h : .ok name ∉ after.map Prod.fst) :
    (ofMembers (before ++ (.ok name, v) :: after)).get? name = some v := by
  rw [ofMembers, SortedMap.get?_ofList, SortedMap.find?_reverse_eq_some_iff, List.filterMap_append]
  exact ⟨_, _, rfl, notMem_names h⟩

theorem get?_ofMembers_eq_none {ms : List (Key × Json)} {name : String}
    (h : .ok name ∉ ms.map Prod.fst) : (ofMembers ms).get? name = none := by
  rw [ofMembers, SortedMap.get?_ofList, SortedMap.find?_eq_none_iff, List.map_reverse,
    List.mem_reverse]
  exact notMem_names h

/-- The properties of an object in memory are given by its members there. -/
theorem exists_members_of_holdsObject {text : String} {root : Properties}
    {members : List (String × Json)} (hparse : Json.parse? text = some (.record members))
    (hplain : ∀ s, members ≠ [(Json.embeddedKey, .string s)])
    (h : HoldsObject text.toUTF8 root) :
    ∃ held, (Json.record members).isSound = true ∧
      Json.resolveMembers? Json.held? (members.map fun e => (.ok e.1, e.2)) = some held ∧
      root = ofMembers held := by
  obtain ⟨held, hheld, hroot⟩ := h
  obtain ⟨document, hdocument, hsound, hresolve⟩ :=
    Json.exists_document_of_held? (Json.isHeldBy_toUTF8_iff.mp hheld)
  obtain rfl := Option.some.inj (hparse.symm.trans hdocument)
  obtain ⟨held', hmembers, hobject⟩ := Json.exists_held_of_resolve?_record hplain hresolve
  obtain rfl := Json.object.inj hobject
  exact ⟨held, hsound, hmembers, givenBy_iff.mp hroot⟩

/-- The members in memory have the names that are written. -/
theorem ok_notMem_keys {es : List (String × Json)} {held : List (Key × Json)} {name : String}
    (hkeys : held.map Prod.fst = (es.map fun e => ((.ok e.1 : Key), e.2)).map Prod.fst)
    (h : ∀ e ∈ es, e.1 ≠ name) : .ok name ∉ held.map Prod.fst := by
  rw [hkeys, List.map_map]
  intro hmem
  obtain ⟨e, he, heq⟩ := List.mem_map.mp hmem
  exact h e he (Except.ok.inj heq)

/-- The value of the last member of a name is held with the document. -/
theorem exists_get?_of_holdsObject {text name : String} {root : Properties}
    {before after : List (String × Json)} {v : Json}
    (hparse : Json.parse? text = some (.record (before ++ (name, v) :: after)))
    (hplain : ∀ s, before ++ (name, v) :: after ≠ [(Json.embeddedKey, .string s)])
    (hafter : ∀ e ∈ after, e.1 ≠ name) (h : HoldsObject text.toUTF8 root) :
    ∃ w, v.IsSoundInside ∧ v.resolve? Json.held? = some w ∧ root.get? name = some w := by
  obtain ⟨held, hsound, hmembers, rfl⟩ := exists_members_of_holdsObject hparse hplain h
  have hinside : v.IsSoundInside := Json.isSound_record_iff.mp hsound (name, v) (by simp)
  rw [List.map_append, List.map_cons] at hmembers
  obtain ⟨before', w, after', rfl, hw, -, hkeys⟩ := Json.resolveMembers?_append_cons hmembers
  exact ⟨w, hinside, hw, get?_ofMembers (ok_notMem_keys hkeys hafter)⟩

/-- A name that is not written is not the name of a property. -/
theorem get?_eq_none_of_holdsObject {text name : String} {root : Properties}
    {members : List (String × Json)} (hparse : Json.parse? text = some (.record members))
    (hplain : ∀ s, members ≠ [(Json.embeddedKey, .string s)]) (hnames : ∀ e ∈ members, e.1 ≠ name)
    (h : HoldsObject text.toUTF8 root) : root.get? name = none := by
  obtain ⟨held, -, hmembers, rfl⟩ := exists_members_of_holdsObject hparse hplain h
  exact get?_ofMembers_eq_none (ok_notMem_keys (Json.keys_of_resolveMembers? hmembers) hnames)

/-- An object is held if all that is in it can be held there and its first name does not say that it
stands for another value. -/
theorem exists_holdsObject {texts : List Json.MemberText} {members : List (String × Json)}
    (hspells : List.Forall₂ Json.MemberText.Spells texts members)
    (hmembers : ∀ e ∈ members, e.2.CanStandInside)
    (hfirst : ∀ m ∈ texts.head?, ¬ Json.IsLiteralOf m.name Json.embeddedKey) :
    ∃ root, HoldsObject (Json.objectText texts).toUTF8 root := by
  have hhead : ∀ e ∈ members.head?, e.1 ≠ Json.embeddedKey := by
    cases hspells with
    | nil => nofun
    | cons hspells _ =>
        rintro e ⟨⟩ heq
        exact hfirst _ rfl (heq ▸ hspells.name)
  obtain ⟨held, -, hheld⟩ :=
    Json.exists_held_of_record (Json.parse?_objectText hspells) hmembers hhead
  exact ⟨_, held, Json.isHeldBy_toUTF8_iff.mpr hheld, givenBy_ofMembers held⟩

/-- A member between others is spelled with them. -/
theorem exists_spells_between {property : String} {v : Json} {P : String × Json → Prop}
    (hname : Json.IsLiteralOf name property) (hinner : Json.parse? inner = some v)
    (hbeside : ∀ m ∈ before ++ after, ∃ e, m.Spells e ∧ P e) :
    ∃ bs as, (∀ e ∈ bs ++ as, P e) ∧
      List.Forall₂ Json.MemberText.Spells (before ++ ⟨name, inner⟩ :: after)
        (bs ++ (property, v) :: as) := by
  obtain ⟨hbefore, hafter⟩ := List.forall_mem_append.mp hbeside
  obtain ⟨bs, hbs, hbsP⟩ := exists_forall₂ hbefore
  obtain ⟨as, has, hasP⟩ := exists_forall₂ hafter
  exact ⟨bs, as, List.forall_mem_append.mpr ⟨hbsP, hasP⟩,
    List.rel_append hbs (.cons ⟨hname, hinner⟩ has)⟩

/-- The properties of a wrapper that is held as an object are those of the document inside. -/
theorem propertiesOf_of_wraps (hheld : Json.held? text = some (.object ms))
    (hwraps : Wraps text inner) (hname : Json.IsLiteralOf name "properties")
    (hbeside : ∀ m ∈ before ++ after, IsBeside m)
    (h : HoldsObject (Json.objectText (before ++ ⟨name, inner⟩ :: after)).toUTF8 root) :
    PropertiesOf (Json.objectText (before ++ ⟨name, inner⟩ :: after)).toUTF8 (ofMembers ms) := by
  obtain ⟨document, hparse, -, hresolve⟩ := Json.exists_document_of_held? hheld
  have hplain : ∀ {bs as : List (String × Json)} {v : Json} (s : String),
      bs ++ ("properties", v) :: as ≠ [(Json.embeddedKey, .string s)] := by
    intro bs as v s heq
    have hmem : ("properties", v) ∈ bs ++ ("properties", v) :: as := by simp
    rw [heq, List.mem_singleton] at hmem
    simp [Json.embeddedKey] at hmem
  cases hwraps with
  | asObject =>
      obtain ⟨bs, as, hnames, hspells⟩ := exists_spells_between hname hparse hbeside
      have hafter := (List.forall_mem_append.mp hnames).2
      obtain ⟨v, -, hv, hget⟩ :=
        exists_get?_of_holdsObject (Json.parse?_objectText hspells) hplain hafter h
      obtain rfl := Option.some.inj (hresolve.symm.trans hv)
      exact .wrapped h hget (givenBy_ofMembers ms)
  | asText hliteral =>
      obtain ⟨bs, as, hnames, hspells⟩ := exists_spells_between hname hliteral hbeside
      have hafter := (List.forall_mem_append.mp hnames).2
      obtain ⟨v, -, hv, hget⟩ :=
        exists_get?_of_holdsObject (Json.parse?_objectText hspells) hplain hafter h
      obtain rfl : Json.string text = v := Option.some.inj hv
      exact .encoded h hget ⟨ms, Json.isHeldBy_toUTF8_iff.mpr hheld, givenBy_ofMembers ms⟩

/-- A wrapper is answered like the document inside just when it is held as an object. -/
theorem handle_eq_verdict_iff_of_wraps (explain : ByteArray → String)
    (rules : SortedMap String Rule) (hheld : Json.held? text = some (.object ms))
    (hwraps : Wraps text inner) (hname : Json.IsLiteralOf name "properties")
    (hbeside : ∀ m ∈ before ++ after, IsBeside m) :
    handle explain rules (Json.objectText (before ++ ⟨name, inner⟩ :: after)).toUTF8 =
        verdict rules (ofMembers ms) ↔
      ∃ root, HoldsObject (Json.objectText (before ++ ⟨name, inner⟩ :: after)).toUTF8 root := by
  constructor
  · intro hverdict
    rcases holds_cases (Json.objectText (before ++ ⟨name, inner⟩ :: after)).toUTF8 with
      hobject | hother | hnothing
    · exact hobject
    · have hfault : FaultOf explain _ .notAnObject := .notAnObject hother
      exact absurd hverdict (handle_ne_verdict rules hfault _)
    · have hfault : FaultOf explain _ _ := .notJson hnothing
      exact absurd hverdict (handle_ne_verdict rules hfault _)
  · rintro ⟨root, hroot⟩
    exact handle_of_propertiesOf explain rules
      (propertiesOf_of_wraps hheld hwraps hname hbeside hroot)

/-- A wrapper is held as an object if all that is in it can be held there. -/
theorem exists_holdsObject_of_wraps (hparse : Json.parse? text = some document)
    (hdepth : document.depth ≤ 126) (hheld : Json.held? text = some (.object ms))
    (hwraps : Wraps text inner) (hname : Json.IsLiteralOf name "properties")
    (hbeside : ∀ m ∈ before ++ after, IsBeside m)
    (hinside : ∀ m ∈ before ++ after, IsHeldInside m)
    (hfirst : ∀ m ∈ before.head?, ¬ Json.IsLiteralOf m.name Json.embeddedKey) :
    ∃ root, HoldsObject (Json.objectText (before ++ ⟨name, inner⟩ :: after)).toUTF8 root := by
  have hmembers : ∀ m ∈ before ++ after, ∃ e, m.Spells e ∧ e.2.CanStandInside := by
    intro m hm
    obtain ⟨e, he, -⟩ := hbeside m hm
    obtain ⟨document, v, hdocument, hdepth, hv⟩ := hinside m hm
    obtain rfl := Option.some.inj (he.value.symm.trans hdocument)
    exact ⟨e, he, Json.canStandInside_of_held? hdocument hdepth hv⟩
  have hinner : ∃ v, Json.parse? inner = some v ∧ v.CanStandInside := by
    cases hwraps with
    | asObject => exact ⟨_, hparse, Json.canStandInside_of_held? hparse hdepth hheld⟩
    | asText hliteral => exact ⟨_, hliteral, ⟨rfl, Nat.succ_pos 126⟩, _, rfl⟩
  obtain ⟨v, hv, hinsideV⟩ := hinner
  obtain ⟨bs, as, hall, hspells⟩ := exists_spells_between hname hv hmembers
  obtain ⟨hbefore, hafter⟩ := List.forall_mem_append.mp hall
  refine exists_holdsObject hspells
    (List.forall_mem_append.mpr ⟨hbefore, List.forall_mem_cons.mpr ⟨hinsideV, hafter⟩⟩) ?_
  cases before with
  | nil =>
      rintro m ⟨⟩ hkey
      exact absurd (hname.eq hkey) (by simp [Json.embeddedKey])
  | cons m before => exact hfirst

theorem handle_of_wraps (explain : ByteArray → String) (rules : SortedMap String Rule)
    (hparse : Json.parse? text = some document) (hdepth : document.depth ≤ 126)
    (hheld : Json.held? text = some (.object ms)) (hname : Json.IsLiteralOf name "properties")
    (hwraps : Wraps text inner) :
    handle explain rules (Json.objectText [⟨name, inner⟩]).toUTF8 =
      verdict rules (ofMembers ms) := by
  have hnone : ∀ {P : Json.MemberText → Prop}, ∀ m ∈ [] ++ [], P m := nofun
  exact (handle_eq_verdict_iff_of_wraps explain rules hheld hwraps hname hnone).mpr
    (exists_holdsObject_of_wraps hparse hdepth hheld hwraps hname hnone hnone nofun)

/-- A wrapper is itself a document that is held as an object. -/
theorem held?_wrapper (hparse : Json.parse? text = some document) (hdepth : document.depth ≤ 126)
    (hheld : Json.held? text = some (.object ms)) (hname : Json.IsLiteralOf name "properties") :
    Json.parse? (Json.objectText [⟨name, text⟩]) = some (.record [("properties", document)]) ∧
      Json.held? (Json.objectText [⟨name, text⟩]) =
        some (.object [(.ok "properties", .object ms)]) := by
  have hwrapper : Json.parse? (Json.objectText [⟨name, text⟩]) =
      some (.record [("properties", document)]) :=
    Json.parse?_objectText (.cons ⟨hname, hparse⟩ .nil)
  obtain ⟨document', hdocument, -, hresolve⟩ := Json.exists_document_of_held? hheld
  obtain rfl := Option.some.inj (hparse.symm.trans hdocument)
  obtain ⟨held, hmembers, hobject⟩ := Json.exists_held_of_record hwrapper
    (List.forall_mem_singleton.mpr (Json.canStandInside_of_held? hparse hdepth hheld))
    (by rintro e ⟨⟩; simp [Json.embeddedKey])
  obtain ⟨v, rest, hv, hrest, rfl⟩ := Json.resolveMembers?_cons_eq_some_iff.mp hmembers
  obtain rfl := Option.some.inj (hresolve.symm.trans hv)
  cases hrest
  exact ⟨hwrapper, hobject⟩

/-- A document that is held as an object is answered by its own members as properties. The answer is
the same when the document stands under a member `properties`, be it as an object or as a text, and
when it has no such member itself, so that nothing is taken off. Further members around it change
the answer only if they keep the whole from being held as an object; this they do not if each of
them can be held at its place and the first name does not say that the object stands for another
value.

Of a document in two wrappers only the outer one is taken off. -/
theorem handle_of_wrapped (explain : ByteArray → String) (rules : SortedMap String Rule)
    {text : String} {document : Json} {ms : List (Key × Json)}
    (hparse : Json.parse? text = some document) (hdepth : document.depth ≤ 126)
    (hheld : Json.held? text = some (.object ms)) :
    (∀ name inner, Json.IsLiteralOf name "properties" → Wraps text inner →
      handle explain rules (Json.objectText [⟨name, inner⟩]).toUTF8 =
        verdict rules (ofMembers ms) ∧
      ∀ before after, (∀ m ∈ before ++ after, IsBeside m) →
        (handle explain rules (Json.objectText (before ++ ⟨name, inner⟩ :: after)).toUTF8 =
            verdict rules (ofMembers ms) ↔
          ∃ root, HoldsObject (Json.objectText (before ++ ⟨name, inner⟩ :: after)).toUTF8 root) ∧
        ((∀ m ∈ before ++ after, IsHeldInside m) →
          (∀ m ∈ before.head?, ¬ Json.IsLiteralOf m.name Json.embeddedKey) →
          ∃ root,
            HoldsObject (Json.objectText (before ++ ⟨name, inner⟩ :: after)).toUTF8 root)) ∧
    ((∀ m ∈ ms, m.1 ≠ .ok "properties") →
      handle explain rules text.toUTF8 = verdict rules (ofMembers ms)) ∧
    (document.depth < 126 → ∀ name name' inner, Json.IsLiteralOf name "properties" →
      Json.IsLiteralOf name' "properties" → Wraps (Json.objectText [⟨name', text⟩]) inner →
      handle explain rules (Json.objectText [⟨name, inner⟩]).toUTF8 =
        verdict rules (.ofList [("properties", .object ms)])) := by
  refine ⟨fun name inner hname hwraps => ⟨?_, fun before after hbeside => ⟨?_, ?_⟩⟩, ?_, ?_⟩
  · exact handle_of_wraps explain rules hparse hdepth hheld hname hwraps
  · exact handle_eq_verdict_iff_of_wraps explain rules hheld hwraps hname hbeside
  · exact exists_holdsObject_of_wraps hparse hdepth hheld hwraps hname hbeside
  · intro hbare
    refine handle_of_propertiesOf explain rules
      (.bare ⟨ms, Json.isHeldBy_toUTF8_iff.mpr hheld, givenBy_ofMembers ms⟩
        (get?_ofMembers_eq_none fun hmem => ?_))
    obtain ⟨m, hm, heq⟩ := List.mem_map.mp hmem
    exact hbare m hm heq
  · intro hdeep name name' inner hname hname' hwraps
    obtain ⟨hwrapper, hwrapped⟩ := held?_wrapper hparse hdepth hheld hname'
    have hwithin : (Json.record [("properties", document)]).depth ≤ 126 := by
      show max document.depth 0 + 1 ≤ 126
      omega
    exact handle_of_wraps explain rules hwrapper hwithin hwrapped hname hwraps

def propertiesName : String := "\"properties\""

theorem isLiteralOf_propertiesName : Json.IsLiteralOf propertiesName "properties" := by
  have hname : propertiesName = String.ofList (Json.literal "properties") := by decide +kernel
  rw [hname]
  exact Json.isLiteralOf_literal "properties"

def numbered : SortedMap String Rule := .ofList [("title", ⟨some [.integer], none⟩)]

/-- A title is refused in the same words under a wrapper of either kind as without one. -/
theorem handle_of_wrapped_title :
    handle (fun _ => "") numbered "\x7b\"properties\":\x7b\"title\":\"Nocturne\"\x7d\x7d".toUTF8 =
      ⟨412, "property 'title' has a string value, expected integer".toUTF8⟩ ∧
    handle (fun _ => "") numbered
        "\x7b\"properties\":\"\x7b\\\"title\\\":\\\"Nocturne\\\"\x7d\"\x7d".toUTF8 =
      ⟨412, "property 'title' has a string value, expected integer".toUTF8⟩ ∧
    handle (fun _ => "") numbered withTitle.toUTF8 =
      ⟨412, "property 'title' has a string value, expected integer".toUTF8⟩ := by
  have htext : (Json.object (Json.textMembers [("title", "Nocturne")])).compact = withTitle := by
    decide +kernel
  have hparse := Json.parse?_compact_textMembers [("title", "Nocturne")]
  have hheld : Json.held? (Json.object (Json.textMembers [("title", "Nocturne")])).compact =
      some (.object (Json.textMembers [("title", "Nocturne")])) :=
    Json.held?_compact_textMembers (by simp [Json.embeddedKey])
  rw [htext] at hparse hheld
  obtain ⟨hwraps, hbare, -⟩ := handle_of_wrapped (fun _ => "") numbered hparse (by decide) hheld
  have hverdict : verdict numbered (ofMembers (Json.textMembers [("title", "Nocturne")])) =
      ⟨412, "property 'title' has a string value, expected integer".toUTF8⟩ := rfl
  refine ⟨?_, ?_, ?_⟩
  · have hobject := (hwraps propertiesName _ isLiteralOf_propertiesName .asObject).1
    have hwrapper : Json.objectText [⟨propertiesName, withTitle⟩] =
        "\x7b\"properties\":\x7b\"title\":\"Nocturne\"\x7d\x7d" := by decide +kernel
    rw [← hwrapper, hobject, hverdict]
  · have hencoded := (hwraps propertiesName _ isLiteralOf_propertiesName
      (.asText (Json.parse?_of_isLiteralOf (Json.isLiteralOf_literal withTitle)))).1
    have hwrapper : Json.objectText [⟨propertiesName, String.ofList (Json.literal withTitle)⟩] =
        "\x7b\"properties\":\"\x7b\\\"title\\\":\\\"Nocturne\\\"\x7d\"\x7d" := by
      decide +kernel
    rw [← hwrapper, hencoded, hverdict]
  · rw [hbare (by simp [Json.textMembers]), hverdict]

def besideHugeNumber : String := "\x7b\"properties\":\x7b\x7d,\"a\":1e999\x7d"

/-- Further members are not without influence: what cannot be held beside the properties keeps the
whole from being read, although its text is a document. -/
theorem handle_of_unheld_beside :
    besideHugeNumber = Json.objectText [⟨propertiesName, "\x7b\x7d"⟩, ⟨"\"a\"", "1e999"⟩] ∧
    (Json.parse? besideHugeNumber).isSome = true ∧
    handle (fun _ => "reason") .empty (Json.objectText [⟨propertiesName, "\x7b\x7d"⟩]).toUTF8 =
      ⟨204, .empty⟩ ∧
    handle (fun _ => "reason") .empty besideHugeNumber.toUTF8 =
      ⟨412, "payload is not a property object: reason".toUTF8⟩ := by
  have hparse := Json.parse?_compact_textMembers []
  have hheld : Json.held? (Json.object (Json.textMembers [])).compact = some (.object []) :=
    Json.held?_compact_textMembers nofun
  refine ⟨by decide +kernel, by decide +kernel, ?_, ?_⟩
  · exact handle_of_wraps _ _ hparse (by decide) hheld isLiteralOf_propertiesName .asObject
  · have hnone : (Json.held? besideHugeNumber).isNone = true := by decide +kernel
    have hfault : FaultOf (fun _ => "reason") besideHugeNumber.toUTF8 (.notJson "reason") :=
      .notJson (held?_eq_none_iff.mp (Option.isNone_iff_eq_none.mp hnone))
    rw [handle, validate_of_faultOf .empty hfault]
    rfl

end Validation
end StageRelay
