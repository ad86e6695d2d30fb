import StageRelay.Proofs.Schema.Conditions
import StageRelay.Proofs.Schema.Respelling

/-!
# Other spellings of conditions

A condition is respelled in one place: a member is added that is neither the tag nor a field of it,
the empty list of conditions of `all` and `any` is left out, or one of the conditions inside is
respelled in turn. What is added is held in memory with the rest of the condition, so nothing in it
may be faulty or nested too deeply.

Conditions inside are checked where they stand in the document and read when they have been
checked, at a place without limits. So the induction is about both, and about all places that have
at least the room of the one where the respelling is made.
-/

namespace StageRelay

namespace Place

variable {p p' q q' : Place} {n : Nat}

/-- What has room at the first place has room at the second, so that a value may be read there
too. -/
def NoRoomier (p p' : Place) : Prop := ∀ n, p.HasRoom n → p'.HasRoom n

theorem NoRoomier.refl (p : Place) : p.NoRoomier p := fun _ h => h

theorem noRoomier_of_unlimited (h : p'.format.depthLimit = none) : p.NoRoomier p' :=
  fun _ _ => hasRoom_of_unlimited h

theorem NoRoomier.enter (h : p.NoRoomier p') (hq : p.enter = .ok q) (hq' : p'.enter = .ok q') :
    q.NoRoomier q' := by
  intro n hn
  exact (hasRoom_enter_iff hq').mpr (h _ ((hasRoom_enter_iff hq).mp hn))

end Place

namespace Json

variable {p : Place} {v v' : Json}

theorem checkItems_append (vs ws : List Json) :
    checkItems p (vs ++ ws) = checkItems p vs >>= fun _ => checkItems p ws := by
  induction vs with
  | nil => rw [checkItems]; rfl
  | cons v vs ih => rw [List.cons_append, checkItems, checkItems, ih, bind_assoc]

theorem checkMembers_append (ms ns : List (Key × Json)) :
    checkMembers p (ms ++ ns) = checkMembers p ms >>= fun _ => checkMembers p ns := by
  induction ms with
  | nil => rw [checkMembers]; rfl
  | cons m ms ih =>
      rw [List.cons_append, checkMembers, checkMembers, ih, bind_assoc]
      simp only [bind_assoc]

theorem carriedTo_checkItems (h : CarriedTo (v.check p) (v'.check p)) (vs ws : List Json) :
    CarriedTo (checkItems p (vs ++ v :: ws)) (checkItems p (vs ++ v' :: ws)) := by
  rw [checkItems_append, checkItems_append, checkItems, checkItems]
  exact .bind_right _ fun _ _ => h.bind_left _

theorem carriedTo_checkMembers {ms ns ns' : List (Key × Json)}
    (h : CarriedTo (checkMembers p ns) (checkMembers p ns')) :
    CarriedTo (checkMembers p (ms ++ ns)) (checkMembers p (ms ++ ns')) := by
  rw [checkMembers_append, checkMembers_append]
  exact .bind_right _ fun _ _ => h

theorem carriedTo_check_array (h : ∀ q, p.enter = .ok q → CarriedTo (v.check q) (v'.check q))
    (vs ws : List Json) :
    CarriedTo ((Json.array (vs ++ v :: ws)).check p) ((Json.array (vs ++ v' :: ws)).check p) := by
  rw [check, check]
  exact .bind_right _ fun q hq => carriedTo_checkItems (h q hq) vs ws

theorem carriedTo_check_object {ms ns ns' : List (Key × Json)}
    (h : ∀ q, p.enter = .ok q → CarriedTo (checkMembers q ns) (checkMembers q ns')) :
    CarriedTo ((Json.object (ms ++ ns)).check p) ((Json.object (ms ++ ns')).check p) := by
  rw [check, check]
  exact .bind_right _ fun q hq => carriedTo_checkMembers (h q hq)

theorem carriedTo_check_member {k : Key} {ms ns : List (Key × Json)}
    (h : ∀ q, p.enter = .ok q → CarriedTo (v.check q) (v'.check q)) :
    CarriedTo ((Json.object (ms ++ (k, v) :: ns)).check p)
      ((Json.object (ms ++ (k, v') :: ns)).check p) := by
  refine carriedTo_check_object fun q hq => ?_
  rw [checkMembers, checkMembers]
  exact .bind_right _ fun _ _ => (h q hq).bind_left _

end Json

namespace Condition

/-! ## The respellings -/

/-- The names of the fields of a condition without conditions inside. -/
def Leaf.fieldNames : Leaf → List String
  | .always | .never | .hasPayload | .hasFiles => []
  | .method => ["methods"]
  | .pathStart => ["prefix"]
  | .pathEquals => ["path"]
  | .headerPresent => ["name"]
  | .headerEquals => ["name", "value"]

def Tag.fieldNames : Tag → List String
  | .leaf l => l.fieldNames
  | .all | .any => [operandsKey]
  | .not => [operandKey]

def Tag.HasList (t : Tag) : Prop := t = .all ∨ t = .any

/-- The members of an object name the tag of a condition. -/
def HasTag (byIndex : Bool) (ms : List (Key × Json)) (t : Tag) : Prop :=
  ∃ v, (.ok tagKey, v) ∈ ms ∧ Tag.read byIndex v = .ok t

/-- A condition is respelled in one place, at any depth. `byIndex` says whether its tag may be an
index, `inner` whether the tags of the conditions inside may. -/
inductive Respelled (inner : Bool) : Bool → Place → Json → Json → Prop where
  /-- A member is added that is neither the tag nor a field. -/
  | addUnknown {byIndex : Bool} {p : Place} {ms ns : List (Key × Json)} {t : Tag} {k : String}
      {v : Json} (ht : HasTag byIndex (ms ++ ns) t) (hk : k ≠ tagKey) (hfield : k ∉ t.fieldNames)
      (hv : v.faultless = true) (hroom : p.HasRoom (v.depth + 1)) :
      Respelled inner byIndex p (.object (ms ++ ns)) (.object (ms ++ (.ok k, v) :: ns))
  /-- A list of no conditions is left out. -/
  | leaveDefault {byIndex : Bool} {p : Place} {ms ns : List (Key × Json)} {t : Tag}
      (ht : HasTag byIndex (ms ++ ns) t) (hlist : t.HasList) :
      Respelled inner byIndex p (.object (ms ++ (.ok operandsKey, .array []) :: ns))
        (.object (ms ++ ns))
  /-- The condition that is negated is respelled. -/
  | operand {byIndex : Bool} {p q : Place} {ms ns : List (Key × Json)} {v v' : Json}
      (ht : HasTag byIndex (ms ++ ns) .not) (hq : p.enter = .ok q)
      (h : Respelled inner inner q v v') :
      Respelled inner byIndex p (.object (ms ++ (.ok operandKey, v) :: ns))
        (.object (ms ++ (.ok operandKey, v') :: ns))
  /-- One of several conditions is respelled. -/
  | operands {byIndex : Bool} {p q q' : Place} {ms ns : List (Key × Json)} {t : Tag}
      {vs ws : List Json} {v v' : Json} (ht : HasTag byIndex (ms ++ ns) t) (hlist : t.HasList)
      (hq : p.enter = .ok q) (hq' : q.enter = .ok q') (h : Respelled inner inner q' v v') :
      Respelled inner byIndex p (.object (ms ++ (.ok operandsKey, .array (vs ++ v :: ws)) :: ns))
        (.object (ms ++ (.ok operandsKey, .array (vs ++ v' :: ws)) :: ns))
  /-- The condition that is negated is respelled, in an array. -/
  | first {byIndex : Bool} {p q : Place} {tag v v' : Json} {vs : List Json}
      (ht : Tag.read byIndex tag = .ok .not) (hq : p.enter = .ok q)
      (h : Respelled inner inner q v v') :
      Respelled inner byIndex p (.array (tag :: v :: vs)) (.array (tag :: v' :: vs))
  /-- One of several conditions is respelled, in an array. -/
  | firstList {byIndex : Bool} {p q q' : Place} {tag v v' : Json} {t : Tag} {vs ws us : List Json}
      (ht : Tag.read byIndex tag = .ok t) (hlist : t.HasList) (hq : p.enter = .ok q)
      (hq' : q.enter = .ok q') (h : Respelled inner inner q' v v') :
      Respelled inner byIndex p (.array (tag :: .array (vs ++ v :: ws) :: us))
        (.array (tag :: .array (vs ++ v' :: ws) :: us))

def respelling : Respelling := fun p => Respelled p.format.innerTagsByIndex false p

/-! ## Passes over members -/

variable {byIndex inner : Bool} {p : Place} {t : Tag} {k : String} {v v' : Json}
variable {ms ns ns' : List (Key × Json)}

namespace ScansFor

variable {α β : Type} {name : String} {take : Json → Except ReadError α}
variable {pass : Json → Except ReadError Unit}
variable {scan : Option α → List (Key × Json) → Except ReadError β}

/-- The members before those that differ. -/
theorem carriedTo_append (h : ScansFor name take pass scan)
    (hrest : ∀ seen, CarriedTo (scan seen ns) (scan seen ns')) (ms : List (Key × Json))
    (seen : Option α) : CarriedTo (scan seen (ms ++ ns)) (scan seen (ms ++ ns')) := by
  induction ms generalizing seen with
  | nil => exact hrest seen
  | cons m ms ih =>
      rw [List.cons_append, List.cons_append, h, h]
      refine .bind_right _ fun key _ => ?_
      split
      · split
        · exact .refl _
        · exact .bind_right _ fun a _ => ih (some a)
      · exact .bind_right _ fun _ _ => ih seen

/-- The member with the name, taken differently. -/
theorem carriedTo_of_take (h : ScansFor name take pass scan) (hv : CarriedTo (take v) (take v'))
    (ms ns : List (Key × Json)) (seen : Option α) :
    CarriedTo (scan seen (ms ++ (.ok name, v) :: ns))
      (scan seen (ms ++ (.ok name, v') :: ns)) := by
  refine h.carriedTo_append (fun seen => ?_) ms seen
  rw [h, h]
  refine .bind_right _ fun key hkey => ?_
  cases hkey
  rw [if_pos rfl, if_pos rfl]
  split
  · exact .refl _
  · exact hv.bind_left _

/-- A member with another name, passed over differently. -/
theorem carriedTo_of_pass (h : ScansFor name take pass scan) (hk : k ≠ name)
    (hv : CarriedTo (pass v) (pass v')) (ms ns : List (Key × Json)) (seen : Option α) :
    CarriedTo (scan seen (ms ++ (.ok k, v) :: ns)) (scan seen (ms ++ (.ok k, v') :: ns)) := by
  refine h.carriedTo_append (fun seen => ?_) ms seen
  rw [h.cons_of_ne hk, h.cons_of_ne hk]
  exact hv.bind_left _

/-- A member with another name that is passed over without more. -/
theorem carriedTo_insert (h : ScansFor name take pass scan) (hk : k ≠ name)
    (hv : pass v = .ok ()) (ms ns : List (Key × Json)) (seen : Option α) :
    CarriedTo (scan seen (ms ++ ns)) (scan seen (ms ++ (.ok k, v) :: ns)) := by
  refine h.carriedTo_append (fun seen => .of_eq ?_) ms seen
  rw [h.cons_of_ne hk, hv]
  rfl

end ScansFor

/-! ## The first pass -/

/-- Once the tag is found, no other member may name it. -/
theorem tagOfMembers_of_seen {found : Tag} (h : tagOfMembers byIndex p (some found) ms = .ok t) :
    t = found ∧ ∀ v, (.ok tagKey, v) ∉ ms := by
  induction ms with
  | nil =>
      cases h
      exact ⟨rfl, fun _ => List.not_mem_nil⟩
  | cons m ms ih =>
      obtain ⟨key, v⟩ := m
      rw [scansFor_tag] at h
      obtain ⟨k, hk, h⟩ := Reader.exists_of_bind_eq_ok h
      split at h
      next => cases h
      next hne =>
        obtain ⟨-, -, h⟩ := Reader.exists_of_bind_eq_ok h
        obtain ⟨htag, hnone⟩ := ih h
        refine ⟨htag, fun w hw => ?_⟩
        rcases List.mem_cons.mp hw with heq | hw
        · cases heq
          cases hk
          exact hne rfl
        · exact hnone w hw

/-- The tag that is found is the one that the members name. -/
theorem HasTag.eq {found : Tag} (ht : HasTag byIndex ms t)
    (h : tagOfMembers byIndex p none ms = .ok found) : found = t := by
  obtain ⟨w, hw, ht⟩ := ht
  induction ms with
  | nil => cases hw
  | cons m ms ih =>
      obtain ⟨key, v⟩ := m
      rw [scansFor_tag] at h
      obtain ⟨k, hk, h⟩ := Reader.exists_of_bind_eq_ok h
      split at h
      next =>
        obtain ⟨u, hu, h⟩ := Reader.exists_of_bind_eq_ok h
        obtain ⟨rfl, hnone⟩ := tagOfMembers_of_seen h
        rcases List.mem_cons.mp hw with heq | hw
        · cases heq
          exact Except.ok.inj (hu.symm.trans ht)
        · exact absurd hw (hnone w)
      next hne =>
        obtain ⟨-, -, h⟩ := Reader.exists_of_bind_eq_ok h
        rcases List.mem_cons.mp hw with heq | hw
        · cases heq
          cases hk
          exact absurd rfl hne
        · exact ih h hw

theorem HasTag.insert (ht : HasTag byIndex (ms ++ ns) t) (m : Key × Json) :
    HasTag byIndex (ms ++ m :: ns) t := by
  obtain ⟨w, hw, ht⟩ := ht
  refine ⟨w, ?_, ht⟩
  simp only [List.mem_append, List.mem_cons] at hw ⊢
  exact hw.imp_right .inr

/-! ## The second pass -/

/-- Two objects that agree on the tag and on what is read for the tag. -/
theorem carriedTo_object {p : Place} (ht : HasTag byIndex ms t)
    (htag : ∀ q, p.enter = .ok q →
      CarriedTo (tagOfMembers byIndex q none ms) (tagOfMembers byIndex q none ns))
    (h : CarriedTo (ofTag inner ms t) (ofTag inner ns t)) :
    CarriedTo (readAt byIndex inner p (.object ms)) (readAt byIndex inner p (.object ns)) := by
  rw [readAt_object, readAt_object]
  refine .bind_right _ fun q hq => (htag q hq).bind fun found hfound => ?_
  obtain rfl := ht.eq hfound
  exact h

/-- Two arrays with the same tag that agree on what is read for it. -/
theorem carriedTo_array {tag : Json} {vs ws : List Json} (ht : Tag.read byIndex tag = .ok t)
    (hcheck : ∀ q, p.enter = .ok q → CarriedTo (Json.checkItems q vs) (Json.checkItems q ws))
    (h : CarriedTo (ofItems inner vs t) (ofItems inner ws t)) :
    CarriedTo (readAt byIndex inner p (.array (tag :: vs)))
      (readAt byIndex inner p (.array (tag :: ws))) := by
  rw [readAt_array, readAt_array, ht]
  exact .bind_right _ fun q hq => (hcheck q hq).bind fun _ _ => h

theorem withFields_of_unknown {ρ : Type} {r : Record ρ} (make : ρ → Condition)
    (haliases : ∀ f ∈ r.fields, f.aliases = []) (hk : k ∉ r.fields.map Field.name) (v : Json)
    (ms ns : List (Key × Json)) :
    withFields r make (.members (ms ++ (.ok k, v) :: ns)) =
      withFields r make (.members (ms ++ ns)) := by
  have hunknown : ∀ f ∈ r.fields, f.answersTo k = false := by
    intro f hf
    have hne : k ≠ f.name := fun heq => hk (heq ▸ List.mem_map_of_mem hf)
    simp [Field.answersTo, haliases f hf, hne]
  rw [withFields, withFields, Record.ofMembers_of_unknown hunknown]

theorem carriedTo_readItems (h : CarriedTo (readAt inner inner checkedPlace v)
      (readAt inner inner checkedPlace v')) (vs ws : List Json) :
    CarriedTo (readItems inner (vs ++ v :: ws)) (readItems inner (vs ++ v' :: ws)) := by
  induction vs with
  | nil =>
      rw [List.nil_append, List.nil_append, readItems, readItems]
      exact h.bind_left _
  | cons w vs ih =>
      rw [List.cons_append, List.cons_append, readItems, readItems]
      exact .bind_right _ fun _ _ => ih.bind_left _

theorem carriedTo_readSequence (h : CarriedTo (readAt inner inner checkedPlace v)
      (readAt inner inner checkedPlace v')) (vs ws : List Json) :
    CarriedTo (readSequence inner (.array (vs ++ v :: ws)))
      (readSequence inner (.array (vs ++ v' :: ws))) := by
  rw [readSequence, readSequence]
  exact carriedTo_readItems h vs ws

/-- A list that has been given is the only one. -/
theorem readOperands_of_seen {cs : List Condition} {o : Option (List Condition)}
    (h : readOperands inner (some cs) ms = .ok o) :
    o = some cs ∧ readOperands inner none ms = .ok none := by
  induction ms with
  | nil =>
      rw [readOperands] at h
      cases h
      exact ⟨rfl, by rw [readOperands]⟩
  | cons m ms ih =>
      obtain ⟨key, v⟩ := m
      rw [scansFor_operands] at h
      obtain ⟨k, hk, h⟩ := Reader.exists_of_bind_eq_ok h
      split at h
      next => cases h
      next hne =>
        obtain ⟨ho, hrest⟩ := ih h
        refine ⟨ho, ?_⟩
        rw [scansFor_operands, hk]
        exact (if_neg hne).trans hrest

/-- Without the empty list there is none, which means the same. -/
theorem readOperands_of_empty {seen o : Option (List Condition)}
    (h : readOperands inner seen (ms ++ (.ok operandsKey, .array []) :: ns) = .ok o) :
    ∃ o', readOperands inner seen (ms ++ ns) = .ok o' ∧ o'.getD [] = o.getD [] := by
  induction ms generalizing seen with
  | nil =>
      rw [List.nil_append, scansFor_operands] at h
      cases seen with
      | some cs => cases h
      | none =>
          have hempty : readSequence inner (.array []) = .ok [] := by
            rw [readSequence, readItems]
          have h : (readSequence inner (.array []) >>= fun cs =>
              readOperands inner (some cs) ns) = .ok o := h
          rw [hempty] at h
          obtain ⟨rfl, hnone⟩ := readOperands_of_seen h
          exact ⟨none, hnone, rfl⟩
  | cons m ms ih =>
      obtain ⟨key, v⟩ := m
      rw [List.cons_append, scansFor_operands] at h ⊢
      obtain ⟨k, hk, h⟩ := Reader.exists_of_bind_eq_ok h
      rw [hk]
      show ∃ o', (if k = operandsKey then _ else _) = _ ∧ _
      split at h
      next heq =>
        rw [if_pos heq]
        split at h
        next => cases h
        next hseen =>
          obtain ⟨cs, hcs, h⟩ := Reader.exists_of_bind_eq_ok h
          rw [if_neg hseen, hcs]
          exact ih h
      next hne =>
        rw [if_neg hne]
        exact ih h

/-- What is read for a tag with a list is the list, or none that is empty. -/
theorem ofTag_of_hasList (inner : Bool) (hlist : t.HasList) : ∃ make : List Condition → Condition,
    ∀ ms, ofTag inner ms t = readOperands inner none ms >>= fun o => .ok (make (o.getD [])) := by
  rcases hlist with rfl | rfl
  · exact ⟨.all, fun _ => rfl⟩
  · exact ⟨.any, fun _ => rfl⟩

theorem carriedTo_ofTag_of_hasList (hlist : t.HasList)
    (h : CarriedTo (readOperands inner none ms) (readOperands inner none ns)) :
    CarriedTo (ofTag inner ms t) (ofTag inner ns t) := by
  obtain ⟨make, hmake⟩ := ofTag_of_hasList inner hlist
  rw [hmake, hmake]
  exact h.bind_left _

theorem carriedTo_ofTag_of_not
    (h : CarriedTo (readOperand inner none ms) (readOperand inner none ns)) :
    CarriedTo (ofTag inner ms .not) (ofTag inner ns .not) := by
  rw [ofTag, ofTag]
  exact h.bind_left _

/-- A member that is no field is passed over. -/
theorem carriedTo_ofTag_of_unknown (hfield : k ∉ t.fieldNames) (v : Json)
    (ms ns : List (Key × Json)) :
    CarriedTo (ofTag inner (ms ++ ns) t) (ofTag inner (ms ++ (.ok k, v) :: ns) t) := by
  have hlist : k ≠ operandsKey → CarriedTo (readOperands inner none (ms ++ ns))
      (readOperands inner none (ms ++ (.ok k, v) :: ns)) := by
    intro hk
    exact scansFor_operands.carriedTo_insert hk rfl ms ns none
  cases t with
  | leaf l =>
      refine .of_eq (Eq.symm ?_)
      cases l with
      | always | never | hasPayload | hasFiles => rfl
      | method => exact withFields_of_unknown (r := methodRecord) _ (by decide) hfield v ms ns
      | pathStart | pathEquals | headerPresent =>
          exact withFields_of_unknown (r := textRecord _ _) _ (by decide) hfield v ms ns
      | headerEquals => exact withFields_of_unknown (r := headerRecord) _ (by decide) hfield v ms ns
  | all => exact carriedTo_ofTag_of_hasList (.inl rfl) (hlist (List.ne_of_not_mem_cons hfield))
  | any => exact carriedTo_ofTag_of_hasList (.inr rfl) (hlist (List.ne_of_not_mem_cons hfield))
  | not =>
      exact carriedTo_ofTag_of_not
        (scansFor_operand.carriedTo_insert (List.ne_of_not_mem_cons hfield) rfl ms ns none)

theorem carriedTo_ofTag_of_empty (hlist : t.HasList) (ms ns : List (Key × Json)) :
    CarriedTo (ofTag inner (ms ++ (.ok operandsKey, .array []) :: ns) t)
      (ofTag inner (ms ++ ns) t) := by
  obtain ⟨make, hmake⟩ := ofTag_of_hasList inner hlist
  rw [hmake, hmake]
  intro c hc
  obtain ⟨o, ho, hc⟩ := Reader.exists_of_bind_eq_ok hc
  obtain ⟨o', ho', hsame⟩ := readOperands_of_empty ho
  rw [ho']
  show Except.ok (make (o'.getD [])) = _
  rw [hsame]
  exact hc

/-! ## Both passes -/

/-- A respelled condition passes the check that it passed before, and is read as the same
condition, wherever it has as much room. -/
theorem Respelled.carriedTo {p : Place} (h : Respelled inner byIndex p v v') :
    ∀ p', p.NoRoomier p' → CarriedTo (v.check p') (v'.check p') ∧
      CarriedTo (readAt byIndex inner p' v) (readAt byIndex inner p' v') := by
  induction h with
  | @addUnknown byIndex p ms ns t k v ht hk hfield hv hroom =>
      intro p' hp
      have hcheck : ∀ q, p'.enter = .ok q → v.check q = .ok () := fun q hq =>
        Json.check_of_faultless hv ((Place.hasRoom_enter_iff hq).mpr (hp _ hroom))
      refine ⟨Json.carriedTo_check_object fun q hq => .of_eq ?_, carriedTo_object ht
        (fun q hq => scansFor_tag.carriedTo_insert hk (hcheck q hq) ms ns none)
        (carriedTo_ofTag_of_unknown hfield v ms ns)⟩
      rw [Json.checkMembers, hcheck q hq]
      rfl
  | @leaveDefault byIndex p ms ns t ht hlist =>
      intro p' hp
      refine ⟨Json.carriedTo_check_object fun q hq u hu => ?_, carriedTo_object (ht.insert _)
        (fun q hq => ?_) (carriedTo_ofTag_of_empty hlist ms ns)⟩
      · rw [Json.checkMembers] at hu
        obtain ⟨-, -, hu⟩ := Reader.exists_of_bind_eq_ok hu
        obtain ⟨-, -, hu⟩ := Reader.exists_of_bind_eq_ok hu
        exact hu
      · refine scansFor_tag.carriedTo_append (fun seen tag htag => ?_) ms none
        rw [scansFor_tag.cons_of_ne (by decide)] at htag
        obtain ⟨-, -, htag⟩ := Reader.exists_of_bind_eq_ok htag
        exact htag
  | @operand byIndex p q ms ns v v' ht hq h ih =>
      intro p' hp
      have hcheck : ∀ u, p'.enter = .ok u → CarriedTo (v.check u) (v'.check u) := fun u hu =>
        (ih u (hp.enter hq hu)).1
      have hread := (ih checkedPlace (Place.noRoomier_of_unlimited rfl)).2
      exact ⟨Json.carriedTo_check_member hcheck, carriedTo_object (ht.insert _)
        (fun u hu => scansFor_tag.carriedTo_of_pass (by decide) (hcheck u hu) ms ns none)
        (carriedTo_ofTag_of_not (scansFor_operand.carriedTo_of_take hread ms ns none))⟩
  | @operands byIndex p q q' ms ns t vs ws v v' ht hlist hq hq' h ih =>
      intro p' hp
      have hcheck : ∀ u, p'.enter = .ok u →
          CarriedTo ((Json.array (vs ++ v :: ws)).check u)
            ((Json.array (vs ++ v' :: ws)).check u) := fun u hu =>
        Json.carriedTo_check_array (fun w hw => (ih w ((hp.enter hq hu).enter hq' hw)).1) vs ws
      have hread := (ih checkedPlace (Place.noRoomier_of_unlimited rfl)).2
      exact ⟨Json.carriedTo_check_member hcheck, carriedTo_object (ht.insert _)
        (fun u hu => scansFor_tag.carriedTo_of_pass (by decide) (hcheck u hu) ms ns none)
        (carriedTo_ofTag_of_hasList hlist (scansFor_operands.carriedTo_of_take
          (carriedTo_readSequence hread vs ws) ms ns none))⟩
  | @first byIndex p q tag v v' vs ht hq h ih =>
      intro p' hp
      have hread := (ih checkedPlace (Place.noRoomier_of_unlimited rfl)).2
      have hcheck : ∀ u, p'.enter = .ok u → CarriedTo (v.check u) (v'.check u) := fun u hu =>
        (ih u (hp.enter hq hu)).1
      refine ⟨Json.carriedTo_check_array hcheck [tag] _, carriedTo_array ht
        (fun u hu => Json.carriedTo_checkItems (hcheck u hu) [] vs) ?_⟩
      rw [ofItems, ofItems, readFirst, readFirst]
      exact (hread.bind_left _).bind_left _
  | @firstList byIndex p q q' tag v v' t vs ws us ht hlist hq hq' h ih =>
      intro p' hp
      have hread := (ih checkedPlace (Place.noRoomier_of_unlimited rfl)).2
      have hcheck : ∀ u, p'.enter = .ok u →
          CarriedTo ((Json.array (vs ++ v :: ws)).check u)
            ((Json.array (vs ++ v' :: ws)).check u) := fun u hu =>
        Json.carriedTo_check_array (fun w hw => (ih w ((hp.enter hq hu).enter hq' hw)).1) vs ws
      refine ⟨Json.carriedTo_check_array hcheck [tag] _, carriedTo_array ht
        (fun u hu => Json.carriedTo_checkItems (hcheck u hu) [] us) ?_⟩
      have hfirst := (carriedTo_readSequence hread vs ws).bind_left fun cs =>
        if us.isEmpty then .ok cs else .error (tooManyParts 1 (us.length + 1))
      rcases hlist with rfl | rfl
      all_goals
        rw [ofItems, ofItems, readFirstSequence, readFirstSequence]
        exact hfirst.bind_left _

/-- A condition of a document is the same however it is spelled. The induction is over the spelling,
one case for each thing that may be written otherwise. -/
theorem tolerates_reader : reader.Tolerates respelling :=
  fun p _ _ h => (Respelled.carriedTo h p (Place.NoRoomier.refl p)).2

end Condition

end StageRelay
