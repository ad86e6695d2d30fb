import StageRelay.Proofs.Json.Documents
import StageRelay.Proofs.Lists
import StageRelay.Services.Validation

/-!
# What validation accepts

A payload passes when it holds an object of properties and the values of each property
that has a rule satisfy it. `Rule.Accepts` and `Rule.Offends` say what a rule means for
some values, and `PropertiesOf` and `FaultOf` what a payload holds. Of several properties
that do not satisfy their rules the first one by name is reported, and of its values the
first one of a wrong type before their number.

The rules of properties that a payload does not have are not consulted.
-/

namespace StageRelay

/-! ## Rules -/

/-- A number of values is within the bounds, which are inclusive. -/
structure Cardinality.Contains (c : Cardinality) (count : Nat) : Prop where
  atLeast : ∀ min, c.min = some min → min ≤ count
  atMost : ∀ max, c.max = some max → count ≤ max

theorem Cardinality.admits_iff {c : Cardinality} {count : Nat} :
    c.admits count = true ↔ c.Contains count := by
  rw [admits, Bool.and_eq_true]
  constructor
  · rintro ⟨hmin, hmax⟩
    exact ⟨fun min h => by simpa [h] using hmin, fun max h => by simpa [h] using hmax⟩
  · rintro ⟨hmin, hmax⟩
    constructor
    · cases h : c.min with
      | none => rfl
      | some min => simpa using hmin min h
    · cases h : c.max with
      | none => rfl
      | some max => simpa using hmax max h

namespace Rule

/-- All values have one of the types of the rule, if it lists some. A rule without a list takes
values of every type. -/
def AllowsTypes (rule : Rule) (vs : List Json) : Prop :=
  ∀ allowed, rule.types = some allowed → ∀ v ∈ vs, v.dataType ∈ allowed

structure Accepts (rule : Rule) (vs : List Json) : Prop where
  types : rule.AllowsTypes vs
  cardinality : ∀ bounds, rule.cardinality = some bounds → bounds.Contains vs.length

/-- The values of a property do not satisfy the rule. What is wrong is the first value of a type
that is not listed, and their number only if there is no such value. Which one is reported is
thereby settled. -/
inductive Offends (rule : Rule) (property : String) (vs : List Json) :
    ValidationFailure → Prop where
  | datatype {allowed : List DataType} {before after : List Json} {v : Json}
      (htypes : rule.types = some allowed) (hvs : vs = before ++ v :: after)
      (hbefore : ∀ u ∈ before, u.dataType ∈ allowed) (hv : v.dataType ∉ allowed) :
      Offends rule property vs (.datatype property v.dataType allowed)
  | cardinality {bounds : Cardinality} (htypes : rule.AllowsTypes vs)
      (hbounds : rule.cardinality = some bounds) (hcount : ¬ bounds.Contains vs.length) :
      Offends rule property vs (.cardinality property vs.length bounds)

end Rule

/-- Every failure has a wording. -/
theorem ValidationFailure.message_ne_empty (failure : ValidationFailure) :
    failure.message ≠ "" := by
  cases failure with
  | payload fault =>
      show "payload is not a property object: " ++ fault.message ≠ ""
      simp
  | datatype property found allowed =>
      show "property '" ++ property ++ "' has a " ++ found.name ++ " value, expected " ++
        expected allowed ≠ ""
      simp
  | cardinality property count bounds =>
      show "property '" ++ property ++ "' has " ++ toString count ++ " values, allowed " ++
        bounds.description ≠ ""
      simp

namespace Validation

variable {explain : ByteArray → String} {rules : SortedMap String Rule} {rule : Rule}
variable {property : String} {vs : List Json} {failure : ValidationFailure}

/-- The first value of a type that the rule does not list, with the types that it does. -/
def offender? (rule : Rule) (vs : List Json) : Option (List DataType × Json) :=
  rule.types.bind fun allowed =>
    (vs.find? fun v => !allowed.contains v.dataType).map (allowed, ·)

theorem offender?_eq_none_iff : offender? rule vs = none ↔ rule.AllowsTypes vs := by
  rw [offender?, Option.bind_eq_none_iff]
  refine forall₂_congr fun allowed _ => ?_
  simp

theorem offender?_eq_some_iff {allowed : List DataType} {v : Json} :
    offender? rule vs = some (allowed, v) ↔
      rule.types = some allowed ∧ ∃ before after, vs = before ++ v :: after ∧
        (∀ u ∈ before, u.dataType ∈ allowed) ∧ v.dataType ∉ allowed := by
  simp only [offender?, Option.bind_eq_some_iff, Option.map_eq_some_iff, Prod.mk.injEq,
    List.find?_eq_some_iff_append]
  constructor
  · rintro ⟨_, htypes, _, ⟨hv, before, after, hvs, hbefore⟩, rfl, rfl⟩
    exact ⟨htypes, before, after, hvs, by simpa using hbefore, by simpa using hv⟩
  · rintro ⟨htypes, before, after, hvs, hbefore, hv⟩
    exact ⟨_, htypes, _, ⟨by simpa using hv, before, after, hvs, by simpa using hbefore⟩, rfl,
      rfl⟩

theorem checkValues_of_accepts (h : rule.Accepts vs) : checkValues property rule vs = .ok () := by
  have hnone := offender?_eq_none_iff.mpr h.types
  have hwithin : rule.cardinality.filter (!·.admits vs.length) = none := by
    rw [Option.filter_eq_none_iff]
    intro bounds hbounds
    simpa using Cardinality.admits_iff.mpr (h.cardinality bounds hbounds)
  rw [offender?] at hnone
  simp only [checkValues, hnone, hwithin]

theorem checkValues_of_offends (h : rule.Offends property vs failure) :
    checkValues property rule vs = .error failure := by
  cases h with
  | datatype htypes hvs hbefore hv =>
      have hsome := offender?_eq_some_iff.mpr ⟨htypes, _, _, hvs, hbefore, hv⟩
      rw [offender?] at hsome
      simp only [checkValues, hsome]
  | @cardinality bounds htypes hbounds hcount =>
      have hnone := offender?_eq_none_iff.mpr htypes
      have hbeyond : rule.cardinality.filter (!·.admits vs.length) = some bounds := by
        rw [Option.filter_eq_some_iff]
        exact ⟨hbounds, by simpa using mt Cardinality.admits_iff.mp hcount⟩
      rw [offender?] at hnone
      simp only [checkValues, hnone, hbeyond]

/-- The values of a property satisfy a rule or do not. -/
theorem accepts_or_offends (rule : Rule) (property : String) (vs : List Json) :
    rule.Accepts vs ∨ ∃ failure, rule.Offends property vs failure := by
  cases hoffender : offender? rule vs with
  | some offender =>
      obtain ⟨htypes, before, after, hvs, hbefore, hv⟩ := offender?_eq_some_iff.mp hoffender
      exact .inr ⟨_, .datatype htypes hvs hbefore hv⟩
  | none =>
      have htypes := offender?_eq_none_iff.mp hoffender
      by_cases h : ∀ bounds, rule.cardinality = some bounds → bounds.Contains vs.length
      · exact .inl ⟨htypes, h⟩
      · simp only [Classical.not_forall] at h
        obtain ⟨bounds, hbounds, hcount⟩ := h
        exact .inr ⟨_, .cardinality htypes hbounds hcount⟩

/-! ## All properties -/

def Passes (rules : SortedMap String Rule) (property : String) (v : Json) : Prop :=
  ∀ rule, rules.get? property = some rule → rule.Accepts (values v)

/-- A property has a rule that it does not satisfy. -/
def FailsWith (rules : SortedMap String Rule) (property : String) (v : Json)
    (failure : ValidationFailure) : Prop :=
  ∃ rule, rules.get? property = some rule ∧ rule.Offends property (values v) failure

variable {v : Json} {rest entries : List (String × Json)}

theorem checkAll_cons_of_passes (h : Passes rules property v) :
    checkAll rules ((property, v) :: rest) = checkAll rules rest := by
  rw [checkAll]
  cases hrule : rules.get? property with
  | none => rfl
  | some rule =>
      simp only [checkValues_of_accepts (h rule hrule)]
      rfl

theorem checkAll_cons_of_fails (h : FailsWith rules property v failure) :
    checkAll rules ((property, v) :: rest) = .error failure := by
  obtain ⟨rule, hrule, hoffends⟩ := h
  rw [checkAll, hrule]
  simp only [checkValues_of_offends hoffends]
  rfl

theorem passes_or_fails (rules : SortedMap String Rule) (property : String) (v : Json) :
    Passes rules property v ∨ ∃ failure, FailsWith rules property v failure := by
  cases hrule : rules.get? property with
  | none => exact .inl fun rule h => by simp [hrule] at h
  | some rule =>
      rcases accepts_or_offends rule property (values v) with haccepts | ⟨failure, hoffends⟩
      · refine .inl fun rule' h => ?_
        obtain rfl : rule = rule' := by simpa [hrule] using h
        exact haccepts
      · exact .inr ⟨failure, rule, hrule, hoffends⟩

theorem checkAll_append_of_passes {before : List (String × Json)}
    (h : ∀ u ∈ before, Passes rules u.1 u.2) (rest : List (String × Json)) :
    checkAll rules (before ++ rest) = checkAll rules rest := by
  induction before with
  | nil => rfl
  | cons e before ih =>
      obtain ⟨hpasses, hbefore⟩ := List.forall_mem_cons.mp h
      rw [List.cons_append, checkAll_cons_of_passes hpasses, ih hbefore]

/-- The first property that does not satisfy its rule is found, if there is one. -/
theorem checkAll_cases (rules : SortedMap String Rule) (entries : List (String × Json)) :
    ((∀ e ∈ entries, Passes rules e.1 e.2) ∧ checkAll rules entries = .ok ()) ∨
      ∃ before e after failure, entries = before ++ e :: after ∧
        (∀ u ∈ before, Passes rules u.1 u.2) ∧ FailsWith rules e.1 e.2 failure ∧
        checkAll rules entries = .error failure := by
  rcases forall_or_first (fun e => Passes rules e.1 e.2) entries with
    hall | ⟨before, e, after, rfl, hbefore, he⟩
  · refine .inl ⟨hall, ?_⟩
    rw [← List.append_nil entries, checkAll_append_of_passes hall]
    rfl
  · obtain ⟨failure, hfails⟩ := (passes_or_fails rules e.1 e.2).resolve_left he
    refine .inr ⟨before, e, after, failure, rfl, hbefore, hfails, ?_⟩
    rw [checkAll_append_of_passes hbefore]
    exact checkAll_cons_of_fails hfails

theorem checkAll_eq_ok_iff :
    checkAll rules entries = .ok () ↔ ∀ e ∈ entries, Passes rules e.1 e.2 := by
  constructor
  · intro h
    rcases checkAll_cases rules entries with ⟨hall, -⟩ | ⟨-, -, -, _, -, -, -, herror⟩
    · exact hall
    · simp [h] at herror
  · intro h
    rw [← List.append_nil entries, checkAll_append_of_passes h]
    rfl

theorem checkAll_eq_error_iff : checkAll rules entries = .error failure ↔
    ∃ before e after, entries = before ++ e :: after ∧
      (∀ u ∈ before, Passes rules u.1 u.2) ∧ FailsWith rules e.1 e.2 failure := by
  constructor
  · intro h
    rcases checkAll_cases rules entries with
      ⟨-, hok⟩ | ⟨before, e, after, failure', hentries, hbefore, hfails, herror⟩
    · simp [h] at hok
    · obtain rfl : failure = failure' := by simpa [h] using herror
      exact ⟨before, e, after, hentries, hbefore, hfails⟩
  · rintro ⟨before, e, after, rfl, hbefore, hfails⟩
    rw [checkAll_append_of_passes hbefore, checkAll_cons_of_fails hfails]

/-! ## The properties of a payload -/

/-- The properties are those that the members of an object give. Of the members with one
name the last one counts. -/
def GivenBy (ps : Properties) (ms : List (Key × Json)) : Prop :=
  ∀ name, ps.get? name = (ms.findRev? fun m => m.1.toOption == some name).map Prod.snd

theorem givenBy_ofMembers (ms : List (Key × Json)) : GivenBy (ofMembers ms) ms := by
  intro name
  rw [ofMembers, SortedMap.get?_ofList]
  induction ms with
  | nil => rfl
  | cons m ms ih =>
      obtain ⟨key, v⟩ := m
      cases key with
      | error fault =>
          rw [List.filterMap_cons_none rfl, ih, List.findRev?]
          cases ms.findRev? fun m => m.1.toOption == some name <;> rfl
      | ok key =>
          show SortedMap.find? name ((key, v) :: ms.filterMap _).reverse = _
          rw [List.reverse_cons, SortedMap.find?_append, ih, List.findRev?]
          cases ms.findRev? fun m => m.1.toOption == some name with
          | some m => rfl
          | none => by_cases hkey : key = name <;> simp [SortedMap.find?, Except.toOption, hkey]

theorem givenBy_iff {ps : Properties} {ms : List (Key × Json)} :
    GivenBy ps ms ↔ ps = ofMembers ms := by
  constructor
  · exact fun h => SortedMap.ext_get? fun name => (h name).trans (givenBy_ofMembers ms name).symm
  · rintro rfl
    exact givenBy_ofMembers ms

/-- The bytes are a document whose root is an object with these properties. -/
def HoldsObject (bytes : ByteArray) (ps : Properties) : Prop :=
  ∃ ms, (Json.object ms).IsHeldBy bytes ∧ GivenBy ps ms

/-- The bytes are a document whose root is not an object. -/
def HoldsOther (bytes : ByteArray) : Prop :=
  ∃ v : Json, v.IsHeldBy bytes ∧ ∀ ms, v ≠ .object ms

def HoldsNothing (bytes : ByteArray) : Prop := ∀ v : Json, ¬ v.IsHeldBy bytes

/-- The payload has these properties: those of its root or, if there is a member
`properties`, those of the object that is there or in the text there. -/
inductive PropertiesOf (payload : ByteArray) : Properties → Prop where
  | bare {ps : Properties} (hroot : HoldsObject payload ps)
      (hbare : ps.get? "properties" = none) : PropertiesOf payload ps
  | wrapped {root ps : Properties} {ms : List (Key × Json)} (hroot : HoldsObject payload root)
      (hinner : root.get? "properties" = some (.object ms)) (hps : GivenBy ps ms) :
      PropertiesOf payload ps
  | encoded {root ps : Properties} {text : String} (hroot : HoldsObject payload root)
      (htext : root.get? "properties" = some (.string text))
      (hps : HoldsObject text.toUTF8 ps) : PropertiesOf payload ps

/-- Why a payload has no properties. -/
inductive FaultOf (explain : ByteArray → String) (payload : ByteArray) : PayloadFault → Prop where
  | notJson (hroot : HoldsNothing payload) : FaultOf explain payload (.notJson (explain payload))
  | notAnObject (hroot : HoldsOther payload) : FaultOf explain payload .notAnObject
  | wrappedNotJson {root : Properties} {text : String} (hroot : HoldsObject payload root)
      (htext : root.get? "properties" = some (.string text))
      (hinner : HoldsNothing text.toUTF8) :
      FaultOf explain payload (.wrappedNotJson (explain text.toUTF8))
  | wrappedNotAnObject {root : Properties} {text : String} (hroot : HoldsObject payload root)
      (htext : root.get? "properties" = some (.string text))
      (hinner : HoldsOther text.toUTF8) : FaultOf explain payload .wrappedNotAnObject
  | wrapperNotReadable {root : Properties} {v : Json} (hroot : HoldsObject payload root)
      (hv : root.get? "properties" = some v) (hobject : ∀ ms, v ≠ .object ms)
      (htext : ∀ text, v ≠ .string text) : FaultOf explain payload .wrapperNotReadable

variable {payload : ByteArray} {ps root : Properties} {fault : PayloadFault} {text : String}

/-- Bytes hold an object, something else or nothing. -/
theorem holds_cases (bytes : ByteArray) :
    (∃ ps, HoldsObject bytes ps) ∨ HoldsOther bytes ∨ HoldsNothing bytes := by
  by_cases h : ∃ v : Json, v.IsHeldBy bytes
  · obtain ⟨v, hv⟩ := h
    by_cases hobject : ∃ ms, v = .object ms
    · obtain ⟨ms, rfl⟩ := hobject
      exact .inl ⟨_, ms, hv, givenBy_ofMembers ms⟩
    · exact .inr (.inl ⟨v, hv, not_exists.mp hobject⟩)
  · exact .inr (.inr (not_exists.mp h))

theorem held?_eq_none_iff : Json.held? text = none ↔ HoldsNothing text.toUTF8 := by
  simp only [HoldsNothing, Json.isHeldBy_toUTF8_iff, Option.eq_none_iff_forall_ne_some, ne_eq]

theorem properties_of_holdsObject (h : HoldsObject payload root) :
    properties explain payload = withoutWrapper explain root := by
  obtain ⟨ms, hms, hroot⟩ := h
  rw [givenBy_iff] at hroot
  simp only [properties, Json.isHeldBy_iff.mp hms, hroot]

theorem properties_of_propertiesOf (explain : ByteArray → String) (h : PropertiesOf payload ps) :
    properties explain payload = .ok ps := by
  cases h with
  | bare hroot hbare =>
      rw [properties_of_holdsObject hroot]
      simp only [withoutWrapper, wrapperKey, hbare]
  | wrapped hroot hinner hps =>
      rw [properties_of_holdsObject hroot, givenBy_iff.mp hps]
      simp only [withoutWrapper, wrapperKey, hinner]
  | encoded hroot htext hps =>
      obtain ⟨ms, hms, hps⟩ := hps
      rw [properties_of_holdsObject hroot, givenBy_iff.mp hps]
      simp only [withoutWrapper, wrapperKey, htext, Json.isHeldBy_toUTF8_iff.mp hms]

theorem properties_of_faultOf (h : FaultOf explain payload fault) :
    properties explain payload = .error fault := by
  cases h with
  | notJson hroot =>
      have hnone : (String.fromUTF8? payload).bind Json.held? = none := by
        rw [Option.eq_none_iff_forall_ne_some]
        exact fun v hv => hroot v (Json.isHeldBy_iff.mpr hv)
      simp only [properties, hnone]
  | notAnObject hroot =>
      obtain ⟨v, hv, hother⟩ := hroot
      simp only [properties, Json.isHeldBy_iff.mp hv]
  | wrappedNotJson hroot htext hinner =>
      rw [properties_of_holdsObject hroot]
      simp only [withoutWrapper, wrapperKey, htext, held?_eq_none_iff.mpr hinner]
  | wrappedNotAnObject hroot htext hinner =>
      obtain ⟨v, hv, hother⟩ := hinner
      rw [properties_of_holdsObject hroot]
      simp only [withoutWrapper, wrapperKey, htext, Json.isHeldBy_toUTF8_iff.mp hv]
  | wrapperNotReadable hroot hv hobject htext =>
      rw [properties_of_holdsObject hroot]
      simp only [withoutWrapper, wrapperKey, hv]

/-- A payload has properties, or there is a reason why it has none. -/
theorem properties_or_fault (explain : ByteArray → String) (payload : ByteArray) :
    (∃ ps, PropertiesOf payload ps) ∨ ∃ fault, FaultOf explain payload fault := by
  rcases holds_cases payload with ⟨root, hroot⟩ | hroot | hroot
  · cases hv : root.get? "properties" with
    | none => exact .inl ⟨root, .bare hroot hv⟩
    | some v =>
        cases v with
        | object ms => exact .inl ⟨_, .wrapped hroot hv (givenBy_ofMembers ms)⟩
        | string text =>
            rcases holds_cases text.toUTF8 with ⟨ps, hps⟩ | hinner | hinner
            · exact .inl ⟨ps, .encoded hroot hv hps⟩
            · exact .inr ⟨_, .wrappedNotAnObject hroot hv hinner⟩
            · exact .inr ⟨_, .wrappedNotJson hroot hv hinner⟩
        | _ => exact .inr ⟨_, .wrapperNotReadable hroot hv nofun nofun⟩
  · exact .inr ⟨_, .notAnObject hroot⟩
  · exact .inr ⟨_, .notJson hroot⟩

theorem exists_fault_iff (explain : ByteArray → String) (payload : ByteArray) :
    (∃ fault, FaultOf explain payload fault) ↔ ¬ ∃ ps, PropertiesOf payload ps := by
  constructor
  · rintro ⟨fault, hfault⟩ ⟨ps, hps⟩
    have hproperties := properties_of_propertiesOf explain hps
    simp [properties_of_faultOf hfault] at hproperties
  · exact (properties_or_fault explain payload).resolve_left

theorem PropertiesOf.eq {ps' : Properties} (h : PropertiesOf payload ps)
    (h' : PropertiesOf payload ps') : ps = ps' := by
  have hproperties := properties_of_propertiesOf (fun _ => "") h
  simpa [properties_of_propertiesOf (fun _ => "") h'] using hproperties.symm

/-! ## The answer -/

theorem validate_of_propertiesOf (explain : ByteArray → String) (rules : SortedMap String Rule)
    (h : PropertiesOf payload ps) : validate explain rules payload = checkAll rules ps.toList := by
  simp only [validate, properties_of_propertiesOf explain h]

theorem validate_of_faultOf (rules : SortedMap String Rule) (h : FaultOf explain payload fault) :
    validate explain rules payload = .error (.payload fault) := by
  simp only [validate, properties_of_faultOf h]

theorem validate_eq_ok_iff : validate explain rules payload = .ok () ↔
    ∃ ps, PropertiesOf payload ps ∧
      ∀ property v, ps.get? property = some v → Passes rules property v := by
  rcases properties_or_fault explain payload with ⟨ps, hps⟩ | ⟨fault, hfault⟩
  · have hpasses : checkAll rules ps.toList = .ok () ↔
        ∀ property v, ps.get? property = some v → Passes rules property v := by
      simp only [checkAll_eq_ok_iff, Prod.forall, SortedMap.get?_eq_some_iff]
    rw [validate_of_propertiesOf explain rules hps, hpasses]
    constructor
    · exact fun h => ⟨ps, hps, h⟩
    · rintro ⟨ps', hps', h⟩
      rwa [hps.eq hps']
  · rw [validate_of_faultOf rules hfault]
    refine iff_of_false nofun ?_
    rintro ⟨ps, hps, -⟩
    exact (exists_fault_iff explain payload).mp ⟨fault, hfault⟩ ⟨ps, hps⟩

/-- The property is the first one by name that does not satisfy its rule. -/
structure FirstFailure (rules : SortedMap String Rule) (ps : Properties) (property : String)
    (failure : ValidationFailure) : Prop where
  fails : ∃ v, ps.get? property = some v ∧ FailsWith rules property v failure
  first : ∀ earlier v, compare earlier property = .lt → ps.get? earlier = some v →
    Passes rules earlier v

theorem checkAll_toList_eq_error_iff : checkAll rules ps.toList = .error failure ↔
    ∃ property, FirstFailure rules ps property failure := by
  rw [checkAll_eq_error_iff]
  constructor
  · rintro ⟨before, ⟨property, v⟩, after, hsplit, hbefore, hfails⟩
    refine ⟨property, ⟨v, ?_, hfails⟩, fun earlier u hlt hu => ?_⟩
    · rw [SortedMap.get?_eq_some_iff, hsplit]
      simp
    · exact hbefore (earlier, u) ((SortedMap.mem_before_iff hsplit).mpr
        ⟨SortedMap.get?_eq_some_iff.mp hu, hlt⟩)
  · rintro ⟨property, ⟨v, hv, hfails⟩, hfirst⟩
    obtain ⟨before, after, hsplit⟩ := List.append_of_mem (SortedMap.get?_eq_some_iff.mp hv)
    refine ⟨before, (property, v), after, hsplit, fun u hu => ?_, hfails⟩
    obtain ⟨hmem, hlt⟩ := (SortedMap.mem_before_iff hsplit).mp hu
    exact hfirst u.1 u.2 hlt (SortedMap.get?_eq_some_iff.mpr hmem)

theorem validate_eq_error_iff : validate explain rules payload = .error failure ↔
    (∃ fault, FaultOf explain payload fault ∧ failure = .payload fault) ∨
      ∃ ps property, PropertiesOf payload ps ∧ FirstFailure rules ps property failure := by
  rcases properties_or_fault explain payload with ⟨ps, hps⟩ | ⟨fault, hfault⟩
  · rw [validate_of_propertiesOf explain rules hps, checkAll_toList_eq_error_iff]
    constructor
    · rintro ⟨property, h⟩
      exact .inr ⟨ps, property, hps, h⟩
    · rintro (⟨fault, hfault, -⟩ | ⟨ps', property, hps', h⟩)
      · exact absurd ⟨ps, hps⟩ ((exists_fault_iff explain payload).mp ⟨fault, hfault⟩)
      · rw [hps.eq hps']
        exact ⟨property, h⟩
  · rw [validate_of_faultOf rules hfault]
    constructor
    · rintro ⟨⟩
      exact .inl ⟨fault, hfault, rfl⟩
    · rintro (⟨fault', hfault', rfl⟩ | ⟨ps, property, hps, -⟩)
      · rw [← validate_of_faultOf rules hfault', validate_of_faultOf rules hfault]
      · exact absurd ⟨ps, hps⟩ ((exists_fault_iff explain payload).mp ⟨fault, hfault⟩)

/-- A payload that passes is answered with nothing, so that the payload of a run stays as it is. -/
theorem handle_of_pass (h : validate explain rules payload = .ok ()) :
    handle explain rules payload = ⟨passStatus, .empty⟩ := by
  rw [handle, h]

/-- A payload that does not pass is answered with some words. -/
theorem handle_of_fail {failure : ValidationFailure}
    (h : validate explain rules payload = .error failure) :
    (handle explain rules payload).status = failStatus ∧
      (handle explain rules payload).hasBody = true := by
  rw [handle, h]
  refine ⟨rfl, ?_⟩
  simp [Answer.hasBody, ByteArray.isEmpty, failure.message_ne_empty]

/-- A payload passes exactly when it has properties that all satisfy their rules. Else the failure
is that it has no properties, or it is that of the first property by name that does not satisfy its
rule. The answer has the failure in words, and nothing for a payload that passes.

To have properties a payload must be a document that can be held in memory, and so must the text
that encodes them. -/
theorem handle_first_failure (explain : ByteArray → String) (rules : SortedMap String Rule)
    (payload : ByteArray) :
    (validate explain rules payload = .ok () ↔ ∃ ps, PropertiesOf payload ps ∧
      ∀ property v, ps.get? property = some v → Passes rules property v) ∧
    (∀ failure, validate explain rules payload = .error failure ↔
      (∃ fault, FaultOf explain payload fault ∧ failure = .payload fault) ∨
        ∃ ps property, PropertiesOf payload ps ∧ FirstFailure rules ps property failure) ∧
    ((∃ fault, FaultOf explain payload fault) ↔ ¬ ∃ ps, PropertiesOf payload ps) ∧
    (validate explain rules payload = .ok () → handle explain rules payload = ⟨204, .empty⟩) ∧
    (∀ failure, validate explain rules payload = .error failure →
      handle explain rules payload = ⟨412, failure.message.toUTF8⟩ ∧ failure.message ≠ "") ∧
    (∀ (text : String) (document : Json), Json.parse? text = some document →
      document.isSound = true → document.isPlain = true → document.IsHeldBy text.toUTF8) ∧
    ∀ (text : String) (v : Json), v.IsHeldBy text.toUTF8 →
      ∃ document, Json.parse? text = some document ∧ document.isSound = true ∧
        (document.isPlain = true → v = document) := by
  refine ⟨validate_eq_ok_iff, fun failure => validate_eq_error_iff,
    exists_fault_iff explain payload, handle_of_pass, fun failure h => ?_,
    fun _ _ => Json.isHeldBy_of_isPlain, fun _ _ h => h.exists_sound⟩
  rw [handle, h]
  exact ⟨rfl, failure.message_ne_empty⟩

def isBareObject : Json → Bool
  | .object ms => ms.all fun m => m.1.toOption != some "properties"
  | _ => false

def hugeNumber : String := "\x7b\"a\":1e999\x7d"

def heldAsText : String := "\x7b\"$serde_json::private::RawValue\":\"[]\"\x7d"

/-- Two documents that by their text are objects do not pass although there are no rules: what the
one says cannot be held, and what the other holds is an array. -/
theorem validate_of_unheld :
    (Json.parse? hugeNumber).any isBareObject = true ∧
    validate (fun _ => "reason") .empty hugeNumber.toUTF8 =
      .error (.payload (.notJson "reason")) ∧
    (Json.parse? heldAsText).any isBareObject = true ∧
    validate (fun _ => "reason") .empty heldAsText.toUTF8 = .error (.payload .notAnObject) := by
  refine ⟨by decide +kernel, ?_, by decide +kernel, ?_⟩
  · have hnone : (Json.held? hugeNumber).isNone = true := by decide +kernel
    exact validate_of_faultOf .empty
      (.notJson (held?_eq_none_iff.mp (Option.isNone_iff_eq_none.mp hnone)))
  · have harray : (Json.held? heldAsText).any (·.dataType == .array) = true := by decide +kernel
    obtain ⟨v, hv, htype⟩ := (Option.any_eq_true _ _).mp harray
    refine validate_of_faultOf .empty (.notAnObject ⟨v, Json.isHeldBy_toUTF8_iff.mpr hv, ?_⟩)
    rintro ms rfl
    simp [Json.dataType] at htype

/-! ## Properties that a payload does not have -/

/-- The number of values of a property, which has none if it is not there. -/
def count (ps : Properties) (property : String) : Nat :=
  (ps.get? property).elim 0 fun v => (values v).length

/-- The property has as many values as its rule wants, if that wants a number. -/
def Bounded (rules : SortedMap String Rule) (ps : Properties) (property : String) : Prop :=
  ∀ rule bounds, rules.get? property = some rule → rule.cardinality = some bounds →
    bounds.Contains (count ps property)

/-- No value is required of a property: a rule for it has no minimum above zero. -/
def Optional (rules : SortedMap String Rule) (property : String) : Prop :=
  ∀ rule bounds min, rules.get? property = some rule → rule.cardinality = some bounds →
    bounds.min = some min → min = 0

theorem bounded_of_passes (hv : ps.get? property = some v) (h : Passes rules property v) :
    Bounded rules ps property := by
  intro rule bounds hrule hbounds
  rw [count, hv]
  exact (h rule hrule).cardinality bounds hbounds

theorem bounded_of_absent_iff (h : ps.get? property = none) :
    Bounded rules ps property ↔ Optional rules property := by
  have hcount : count ps property = 0 := by rw [count, h, Option.elim_none]
  constructor
  · intro hbounded rule bounds min hrule hbounds hmin
    have hle := (hbounded rule bounds hrule hbounds).atLeast min hmin
    omega
  · intro hoptional rule bounds hrule hbounds
    rw [hcount]
    refine ⟨fun min hmin => ?_, fun max _ => Nat.zero_le max⟩
    exact Nat.le_zero.mpr (hoptional rule bounds min hrule hbounds hmin)

/-- In a payload that passes every property that is there has as many values as its rule wants. All
rules are met in this only if no property that is missing is required, because validation does not
consult the rules of missing properties: with other rules for these the payload passes as well. -/
theorem bounded_of_pass (h : validate explain rules payload = .ok ()) :
    ∃ ps, PropertiesOf payload ps ∧
      (∀ property v, ps.get? property = some v → Bounded rules ps property) ∧
      ((∀ property, Bounded rules ps property) ↔
        ∀ property, ps.get? property = none → Optional rules property) ∧
      ∀ rules' : SortedMap String Rule,
        (∀ property v, ps.get? property = some v →
          rules'.get? property = rules.get? property) →
        validate explain rules' payload = .ok () := by
  obtain ⟨ps, hps, hpasses⟩ := validate_eq_ok_iff.mp h
  refine ⟨ps, hps, fun property v hv => bounded_of_passes hv (hpasses property v hv), ?_, ?_⟩
  · constructor
    · exact fun hbounded property hnone => (bounded_of_absent_iff hnone).mp (hbounded property)
    · intro hoptional property
      cases hv : ps.get? property with
      | none => exact (bounded_of_absent_iff hv).mpr (hoptional property hv)
      | some v => exact bounded_of_passes hv (hpasses property v hv)
  · intro rules' hrules
    refine validate_eq_ok_iff.mpr ⟨ps, hps, fun property v hv rule hrule => ?_⟩
    rw [hrules property v hv] at hrule
    exact hpasses property v hv rule hrule

def titled : SortedMap String Rule := .ofList [("title", ⟨none, some ⟨some 1, none⟩⟩)]

def withTitle : String := "\x7b\"title\":\"Nocturne\"\x7d"

def withoutTitle : String := "\x7b\x7d"

theorem propertiesOf_withTitle :
    PropertiesOf withTitle.toUTF8 (.ofList [("title", .string "Nocturne")]) := by
  have htext : withTitle = (Json.object (Json.textMembers [("title", "Nocturne")])).compact := by
    decide +kernel
  refine .bare ⟨Json.textMembers [("title", "Nocturne")], ?_, givenBy_iff.mpr rfl⟩ rfl
  rw [htext]
  exact Json.isHeldBy_compact_textMembers (by simp [Json.embeddedKey])

theorem propertiesOf_withoutTitle : PropertiesOf withoutTitle.toUTF8 .empty := by
  have htext : withoutTitle = (Json.object (Json.textMembers [])).compact := by decide +kernel
  refine .bare ⟨[], ?_, givenBy_ofMembers []⟩ rfl
  rw [htext]
  exact Json.isHeldBy_compact_textMembers (by simp)

/-- A payload with a title passes, and has a title. -/
theorem bounded_of_pass_title : validate (fun _ => "") titled withTitle.toUTF8 = .ok () ∧
    ∃ ps, PropertiesOf withTitle.toUTF8 ps ∧ Bounded titled ps "title" := by
  have hpass : validate (fun _ => "") titled withTitle.toUTF8 = .ok () := by
    rw [validate_of_propertiesOf _ _ propertiesOf_withTitle]
    rfl
  obtain ⟨ps, hps, hbounded, -⟩ := bounded_of_pass hpass
  obtain rfl := hps.eq propertiesOf_withTitle
  exact ⟨hpass, _, hps, hbounded "title" (.string "Nocturne") rfl⟩

/-- A payload without a title passes as well, though a title is required: the rules of properties
that are not there are not asked about. -/
theorem validate_of_missing_title : PropertiesOf withoutTitle.toUTF8 .empty ∧
    validate (fun _ => "") titled withoutTitle.toUTF8 = .ok () ∧
    ¬ Bounded titled .empty "title" := by
  refine ⟨propertiesOf_withoutTitle, ?_, fun hbounded => ?_⟩
  · rw [validate_of_propertiesOf _ _ propertiesOf_withoutTitle]
    rfl
  · exact absurd ((hbounded _ _ rfl rfl).atLeast 1 rfl) (by decide)

end Validation

end StageRelay
