import StageRelay.Config.Source
import StageRelay.Proofs.Json.Documents
import StageRelay.Proofs.Schema.ConditionSpellings
import StageRelay.Proofs.Schema.MemberOrder

/-!
# The forms of a condition

At each node a condition is an object or an array. The object has the tag and the fields of the
tag among its members, in any order and with others beside them; the array has the tag and the
fields in their declared order. The list of conditions of `all` and `any` may be left out if it is
empty. `Condition.Spells` relates a condition to all the values that spell it, with the form chosen
anew at each node.

All of a condition is held in memory before its fields are read. So a spelling is read as the
condition just when nothing in it is faulty and it is not nested too deeply, and this is so of
everything that stands beside the fields, too.
-/

namespace StageRelay

namespace Condition

variable {byIndex inner : Bool} {p : Place} {t : Tag} {c : Condition} {v : Json}

/-! ## The forms -/

/-- The kind of a condition without conditions inside, and its fields as they are written. -/
def leafFields? : Condition → Option (Leaf × List (String × Json))
  | .always => some (.always, [])
  | .never => some (.never, [])
  | .method names => some (.method, [("methods", .array (names.map .string))])
  | .pathStart head => some (.pathStart, [("prefix", .string head)])
  | .pathEquals path => some (.pathEquals, [("path", .string path)])
  | .headerPresent name => some (.headerPresent, [("name", .string name)])
  | .headerEquals name value =>
    some (.headerEquals, [("name", .string name), ("value", .string value)])
  | .hasPayload => some (.hasPayload, [])
  | .hasFiles => some (.hasFiles, [])
  | .all _ | .any _ | .not _ => none

theorem names_of_leafFields? {l : Leaf} {fields : List (String × Json)}
    (h : c.leafFields? = some (l, fields)) : fields.map Prod.fst = l.fieldNames := by
  cases c <;> cases h <;> rfl

/-- A value with a tag and its fields: an object of them and other members, in any order, or an
array of the tag and the fields. -/
inductive IsNode (t : Tag) (fields : List (String × Json)) : Json → Prop where
  | object {name : String} {ms others : List (Key × Json)} (hname : (name, t) ∈ Tag.names)
      (hms : ms.Perm ((.ok tagKey, .string name) :: (Record.members fields ++ others)))
      (hothers : ∀ k v, (.ok k, v) ∈ others → k ≠ tagKey ∧ k ∉ t.fieldNames) :
      IsNode t fields (.object ms)
  | array {name : String} (hname : (name, t) ∈ Tag.names) :
      IsNode t fields (.array (.string name :: fields.map Prod.snd))

/-- The fields of `all` and `any`: the list of conditions, which may be left out if it is empty. -/
inductive GivesList (vs : List Json) : List (String × Json) → Prop where
  | given : GivesList vs [(operandsKey, .array vs)]
  | leftOut (h : vs = []) : GivesList vs []

/-- A value spells a condition: its node does, and the nodes of the conditions inside do, each in a
form of its own. -/
inductive Spells : Condition → Json → Prop where
  | leaf {c : Condition} {l : Leaf} {fields : List (String × Json)} {v : Json}
      (hc : c.leafFields? = some (l, fields)) (hv : IsNode (.leaf l) fields v) : Spells c v
  | all {nodes : List (Condition × Json)} {fields : List (String × Json)} {v : Json}
      (h : ∀ n ∈ nodes, Spells n.1 n.2) (hfields : GivesList (nodes.map Prod.snd) fields)
      (hv : IsNode .all fields v) : Spells (.all (nodes.map Prod.fst)) v
  | any {nodes : List (Condition × Json)} {fields : List (String × Json)} {v : Json}
      (h : ∀ n ∈ nodes, Spells n.1 n.2) (hfields : GivesList (nodes.map Prod.snd) fields)
      (hv : IsNode .any fields v) : Spells (.any (nodes.map Prod.fst)) v
  | not {c : Condition} {w v : Json} (h : Spells c w) (hv : IsNode .not [(operandKey, w)] v) :
      Spells (.not c) v

/-! ## Passes over members in any order -/

namespace ScansFor

variable {α β : Type} {name : String} {take : Json → Except ReadError α}
variable {pass : Json → Except ReadError Unit}
variable {scan : Option α → List (Key × Json) → Except ReadError β}

def Passes (name : String) (pass : Json → Except ReadError Unit) (m : Key × Json) : Prop :=
  ∃ k, m.1 = .ok k ∧ k ≠ name ∧ pass m.2 = .ok ()

theorem append_of_passes (h : ScansFor name take pass scan) {ms : List (Key × Json)}
    (hms : ∀ m ∈ ms, Passes name pass m) (seen : Option α) (ns : List (Key × Json)) :
    scan seen (ms ++ ns) = scan seen ns := by
  induction ms with
  | nil => rfl
  | cons m ms ih =>
      obtain ⟨⟨k, hk, hne, hpass⟩, hrest⟩ := List.forall_mem_cons.mp hms
      obtain ⟨key, v⟩ := m
      obtain rfl : key = .ok k := hk
      rw [List.cons_append, h.cons_of_ne hne, hpass]
      exact ih hrest

theorem of_passes (h : ScansFor name take pass scan) {ms : List (Key × Json)}
    (hms : ∀ m ∈ ms, Passes name pass m) (seen : Option α) : scan seen ms = scan seen [] := by
  rw [← h.append_of_passes hms seen [], List.append_nil]

/-- The only member with the name is taken, wherever it stands. -/
theorem of_perm (h : ScansFor name take pass scan) {ms rest : List (Key × Json)} {v : Json} {a : α}
    (hms : ms.Perm ((.ok name, v) :: rest)) (hrest : ∀ m ∈ rest, Passes name pass m)
    (ha : take v = .ok a) : scan none ms = scan (some a) [] := by
  obtain ⟨before, after, rfl⟩ := List.append_of_mem (hms.mem_iff.mpr List.mem_cons_self)
  have hothers : (before ++ after).Perm rest :=
    (List.perm_middle.symm.trans hms).cons_inv
  have hpasses : ∀ m ∈ before ++ after, Passes name pass m := fun m hm =>
    hrest m (hothers.mem_iff.mp hm)
  obtain ⟨hbefore, hafter⟩ := List.forall_mem_append.mp hpasses
  rw [h.append_of_passes hbefore, h]
  show (if name = name then _ else _) = _
  rw [if_pos rfl, ha]
  exact h.of_passes hafter (some a)

end ScansFor

/-! ## The two passes over a node -/

variable {fields : List (String × Json)} {ms : List (Key × Json)}

theorem tagKey_notMem_fieldNames (t : Tag) : tagKey ∉ t.fieldNames := by
  cases t with
  | leaf l => cases l <;> decide
  | all | any | not => decide

/-- The members hold a tag and the fields of `t`. No other member is under the name of the tag or of
a field, so that there is no doubt which ones are read. -/
def Contains (t : Tag) (fields : List (String × Json)) (ms : List (Key × Json)) : Prop :=
  ∃ tag others, ms.Perm ((.ok tagKey, tag) :: (Record.members fields ++ others)) ∧
    ∀ m ∈ others, ∃ k, m.1 = .ok k ∧ k ≠ tagKey ∧ k ∉ t.fieldNames

theorem IsNode.faultless_of_mem (hv : IsNode t fields v) (hfaultless : v.faultless = true) :
    ∀ f ∈ fields, f.2.faultless = true := by
  intro f hf
  cases hv with
  | @object name ms others hname hms hothers =>
      have hmem : ((.ok f.1 : Key), f.2) ∈ Record.members fields := List.mem_map.mpr ⟨f, hf, rfl⟩
      exact (Json.faultlessMembers_iff.mp hfaultless _ (hms.mem_iff.mpr
        (List.mem_cons_of_mem _ (List.mem_append_left _ hmem)))).2
  | array hname =>
      exact Json.faultlessItems_iff.mp hfaultless _
        (List.mem_cons_of_mem _ (List.mem_map_of_mem hf))

/-- The other members of a faultless object all have names. -/
theorem named_of_faultless {tag : Json} {others : List (Key × Json)}
    (hms : ms.Perm ((.ok tagKey, tag) :: (Record.members fields ++ others)))
    (hothers : ∀ k v, (.ok k, v) ∈ others → k ≠ tagKey ∧ k ∉ t.fieldNames)
    (hfaultless : Json.faultlessMembers ms = true) :
    ∀ m ∈ others, ∃ k, m.1 = .ok k ∧ k ≠ tagKey ∧ k ∉ t.fieldNames := by
  rintro ⟨key, v⟩ hm
  have hmem : (key, v) ∈ ms := hms.mem_iff.mpr (List.mem_cons_of_mem _ (List.mem_append_right _ hm))
  cases key with
  | error fault => cases (Json.faultlessMembers_iff.mp hfaultless _ hmem).1
  | ok k => exact ⟨k, rfl, hothers k v hm⟩

/-- The first pass finds the tag wherever it stands, and everything else passes the check. -/
theorem tagOfMembers_of_perm {name : String} {others : List (Key × Json)}
    (hname : (name, t) ∈ Tag.names)
    (hms : ms.Perm ((.ok tagKey, .string name) :: (Record.members fields ++ others)))
    (hfields : ∀ f ∈ fields, f.1 ∈ t.fieldNames)
    (hnamed : ∀ m ∈ others, ∃ k, m.1 = .ok k ∧ k ≠ tagKey ∧ k ∉ t.fieldNames)
    (hfaultless : Json.faultlessMembers ms = true) (hp : p.HasRoom (Json.depthOfMembers ms)) :
    tagOfMembers byIndex p none ms = .ok t := by
  have hcheck : ∀ m ∈ Record.members fields ++ others, m.2.check p = .ok () := by
    intro m hm
    have hmem : m ∈ ms := hms.mem_iff.mpr (List.mem_cons_of_mem _ hm)
    exact Json.check_of_faultless (Json.faultlessMembers_iff.mp hfaultless m hmem).2
      (hp.mono (Json.depth_le_of_mem_members hmem))
  refine scansFor_tag.of_perm hms (fun m hm => ?_) (Reader.named_of_mem (by decide) hname)
  rcases List.mem_append.mp hm with hfield | hother
  · obtain ⟨f, hf, rfl⟩ := List.mem_map.mp hfield
    exact ⟨f.1, rfl, fun heq => tagKey_notMem_fieldNames t (heq ▸ hfields f hf), hcheck _ hm⟩
  · obtain ⟨k, hk, hne, -⟩ := hnamed m hother
    exact ⟨k, hk, hne, hcheck m hm⟩

/-- A node is read as what the second pass makes of its fields. -/
theorem IsNode.readAt (hv : IsNode t fields v) (hfields : ∀ f ∈ fields, f.1 ∈ t.fieldNames)
    (hfaultless : v.faultless = true) (hp : p.HasRoom v.depth)
    (hmembers : ∀ ms, Contains t fields ms → ofTag inner ms t = .ok c)
    (hitems : ofItems inner (fields.map Prod.snd) t = .ok c) :
    readAt byIndex inner p v = .ok c := by
  cases hv with
  | @object name ms others hname hms hothers =>
      obtain ⟨q, hq, hroom⟩ := Place.HasRoom.enter hp
      have hnamed := named_of_faultless hms hothers hfaultless
      have htag : tagOfMembers byIndex q none ms = .ok t :=
        tagOfMembers_of_perm hname hms hfields hnamed hfaultless hroom
      rw [readAt_object, hq]
      show (tagOfMembers byIndex q none ms >>= fun t => ofTag inner ms t) = _
      rw [htag]
      exact hmembers ms ⟨_, others, hms, hnamed⟩
  | @array name hname =>
      obtain ⟨q, hq, hroom⟩ := Place.HasRoom.enter hp
      have htag : Tag.read byIndex (.string name) = .ok t := Reader.named_of_mem (by decide) hname
      have hcheck : Json.checkItems q (fields.map Prod.snd) = .ok () :=
        Json.checkItems_of_faultless hfaultless (hroom.mono (Nat.le_max_right _ _))
      rw [readAt_array, hq, htag]
      show (Json.checkItems q _ >>= fun _ => ofItems inner _ t) = _
      rw [hcheck]
      exact hitems

/-! ## Conditions without conditions inside -/

/-- A record of the fields of a condition: each of them must be given, under one of the names. -/
structure IsPlain {ρ : Type} (r : Record ρ) (names : List String) : Prop where
  separate : Record.Separate r.fields
  independent : Record.Independent r.fields
  required : ∀ f ∈ r.fields, f.required = true
  names : ∀ f ∈ r.fields, ∀ k ∈ f.name :: f.aliases, k ∈ names

theorem IsPlain.answersTo {ρ : Type} {r : Record ρ} {names : List String} (hr : IsPlain r names)
    {k : String} (hk : k ∉ names) : ∀ f ∈ r.fields, f.answersTo k = false := fun f hf =>
  Bool.eq_false_iff.mpr fun h => hk (hr.names f hf k (Field.answersTo_iff.mp h))

theorem isPlain_textRecord (variant field : String) :
    IsPlain (textRecord variant field) [field] where
  separate := List.pairwise_singleton _ _
  independent := List.pairwise_singleton _ _
  required := List.forall_mem_singleton.mpr rfl
  names := List.forall_mem_singleton.mpr fun _ hk => hk

theorem isPlain_methodRecord : IsPlain methodRecord ["methods"] where
  separate := List.pairwise_singleton _ _
  independent := List.pairwise_singleton _ _
  required := List.forall_mem_singleton.mpr rfl
  names := List.forall_mem_singleton.mpr fun _ hk => hk

theorem isPlain_headerRecord : IsPlain headerRecord ["name", "value"] where
  separate := by decide
  independent := List.pairwise_pair.mpr (Field.commutesWith_of_forall rfl rfl fun _ _ _ => rfl)
  required := by decide
  names := by decide

/-- The fields of a condition are read from its members and from its items. -/
theorem IsPlain.reads {ρ : Type} {r : Record ρ} {l : Leaf} {update : ρ → ρ}
    (hr : IsPlain r l.fieldNames) (h : Record.Fills r.fields fields update) (make : ρ → Condition) :
    (∀ ms, Contains (.leaf l) fields ms →
      withFields r make (.members ms) = .ok (make (update r.draft))) ∧
    withFields r make (.items (fields.map Prod.snd)) = .ok (make (update r.draft)) := by
  have hroom : ∀ n, checkedPlace.HasRoom n := fun n => Place.hasRoom_of_unlimited rfl
  constructor
  · rintro ms ⟨tag, others, hms, hothers⟩
    have hunknown : ∀ m ∈ others, ∃ k, m.1 = .ok k ∧ ∀ f ∈ r.fields, f.answersTo k = false := by
      intro m hm
      obtain ⟨k, hk, -, hfield⟩ := hothers m hm
      exact ⟨k, hk, hr.answersTo hfield⟩
    have hordered : r.ofMembers checkedPlace
        (((.ok tagKey, tag) :: Record.members fields) ++ others) = .ok (update r.draft) := by
      rw [Record.ofMembers_append_of_unknown hunknown]
      have htag := hr.answersTo (tagKey_notMem_fieldNames (.leaf l))
      refine (Record.ofMembers_of_unknown htag tag [] (Record.members fields)).trans ?_
      exact Record.ofMembers_of_fills hr.separate h (hroom _)
    have hread := Record.ofMembers_perm hr.independent hms.symm hordered
    show (r.ofMembers checkedPlace ms >>= fun x => pure (make x)) = _
    rw [hread]
    rfl
  · have hlength : ¬ r.fields.length < (fields.map Prod.snd).length := by
      rw [List.length_map]
      exact Nat.not_lt_of_le h.length_le
    rw [withFields, Record.takeItems_of_fills h hr.required (hroom _)]
    exact if_neg hlength

theorem ofLeaf_of_leafFields? {l : Leaf} (hc : c.leafFields? = some (l, fields)) :
    (∀ ms, Contains (.leaf l) fields ms → ofLeaf l (.members ms) = .ok c) ∧
      ofLeaf l (.items (fields.map Prod.snd)) = .ok c := by
  cases c with
  | always | never | hasPayload | hasFiles =>
      cases hc
      exact ⟨fun _ _ => rfl, rfl⟩
  | method names =>
      cases hc
      have hnames : (Reader.sequence Reader.text).Reads (.array (names.map .string)) names :=
        Reader.reads_list names fun name _ => Reader.reads_text name
      exact IsPlain.reads (l := .method) isPlain_methodRecord (.give (hnames.map _) .nil) .method
  | pathStart head =>
      cases hc
      exact IsPlain.reads (l := .pathStart) (isPlain_textRecord _ _)
        (.give ((Reader.reads_text head).map _) .nil) .pathStart
  | pathEquals path =>
      cases hc
      exact IsPlain.reads (l := .pathEquals) (isPlain_textRecord _ _)
        (.give ((Reader.reads_text path).map _) .nil) .pathEquals
  | headerPresent name =>
      cases hc
      exact IsPlain.reads (l := .headerPresent) (isPlain_textRecord _ _)
        (.give ((Reader.reads_text name).map _) .nil) .headerPresent
  | headerEquals name value =>
      cases hc
      exact IsPlain.reads (l := .headerEquals) isPlain_headerRecord
        (.give ((Reader.reads_text name).map _) (.give ((Reader.reads_text value).map _) .nil)) _
  | all cs | any cs | not c => cases hc

/-! ## Conditions with conditions inside -/

theorem GivesList.faultless {vs : List Json} (hfields : GivesList vs fields)
    (h : ∀ f ∈ fields, f.2.faultless = true) : ∀ w ∈ vs, w.faultless = true := by
  cases hfields with
  | given => exact Json.faultlessItems_iff.mp (h _ List.mem_cons_self)
  | leftOut hvs =>
      rw [hvs]
      exact List.forall_mem_nil _

theorem readItems_nodes {nodes : List (Condition × Json)}
    (h : ∀ n ∈ nodes, readAt inner inner checkedPlace n.2 = .ok n.1) :
    readItems inner (nodes.map Prod.snd) = .ok (nodes.map Prod.fst) := by
  induction nodes with
  | nil => rw [List.map_nil, readItems, List.map_nil]
  | cons n nodes ih =>
      obtain ⟨hn, hnodes⟩ := List.forall_mem_cons.mp h
      rw [List.map_cons, readItems, hn, ih hnodes]
      rfl

/-- Beside the tag no member is under another name of a field. -/
theorem Contains.passes {others : List (Key × Json)} {name : String} (hname : name ≠ tagKey)
    (hfield : name ∈ t.fieldNames) (tag : Json)
    (hothers : ∀ m ∈ others, ∃ k, m.1 = .ok k ∧ k ≠ tagKey ∧ k ∉ t.fieldNames) :
    ∀ m ∈ (.ok tagKey, tag) :: others, ScansFor.Passes name (fun _ => .ok ()) m := by
  refine List.forall_mem_cons.mpr ⟨⟨tagKey, rfl, hname.symm, rfl⟩, fun m hm => ?_⟩
  obtain ⟨k, hk, -, hunknown⟩ := hothers m hm
  exact ⟨k, hk, fun heq => hunknown (heq ▸ hfield), rfl⟩

theorem readOperands_of_contains {vs : List Json} {cs : List Condition} (ht : t.HasList)
    (hfields : GivesList vs fields) (hvs : readItems inner vs = .ok cs)
    (hms : Contains t fields ms) : ∃ o, readOperands inner none ms = .ok o ∧ o.getD [] = cs := by
  obtain ⟨tag, others, hperm, hothers⟩ := hms
  have hfield : operandsKey ∈ t.fieldNames := by
    rcases ht with rfl | rfl <;> exact List.mem_cons_self
  have hpasses := Contains.passes (by decide) hfield tag hothers
  cases hfields with
  | given =>
      have hsequence : readSequence inner (.array vs) = .ok cs := by rw [readSequence, hvs]
      refine ⟨some cs, ?_, rfl⟩
      exact (scansFor_operands.of_perm (hperm.trans (.swap _ _ _)) hpasses hsequence).trans
        (by rw [readOperands])
  | leftOut hnil =>
      rw [hnil, readItems] at hvs
      cases hvs
      refine ⟨none, ?_, rfl⟩
      rw [scansFor_operands.of_passes fun m hm => hpasses m (hperm.mem_iff.mp hm), readOperands]

theorem readFirstSequence_of_givesList {vs : List Json} {cs : List Condition}
    (hfields : GivesList vs fields) (hvs : readItems inner vs = .ok cs) :
    readFirstSequence inner (fields.map Prod.snd) = .ok cs := by
  cases hfields with
  | given =>
      rw [List.map_cons, List.map_nil, readFirstSequence, readSequence, hvs]
      rfl
  | leftOut hnil =>
      rw [hnil, readItems] at hvs
      cases hvs
      rw [List.map_nil, readFirstSequence]

theorem readOperand_of_contains {w : Json} (hw : readAt inner inner checkedPlace w = .ok c)
    (hms : Contains .not [(operandKey, w)] ms) : readOperand inner none ms = .ok (some c) := by
  obtain ⟨tag, others, hperm, hothers⟩ := hms
  have hpasses := Contains.passes (by decide) List.mem_cons_self tag hothers
  exact (scansFor_operand.of_perm (hperm.trans (.swap _ _ _)) hpasses hw).trans
    (by rw [readOperand])

/-- The node of a condition with a list of conditions inside. -/
theorem IsNode.readAt_list {nodes : List (Condition × Json)} {make : List Condition → Condition}
    (hv : IsNode t fields v) (ht : t.HasList) (hfields : GivesList (nodes.map Prod.snd) fields)
    (hfaultless : v.faultless = true) (hp : p.HasRoom v.depth)
    (hnodes : ∀ n ∈ nodes, n.2.faultless = true →
      Condition.readAt inner inner checkedPlace n.2 = .ok n.1)
    (hmembers : ∀ ms o, readOperands inner none ms = .ok o →
      ofTag inner ms t = .ok (make (o.getD [])))
    (hitems : ∀ vs cs, readFirstSequence inner vs = .ok cs →
      ofItems inner vs t = .ok (make cs)) :
    Condition.readAt byIndex inner p v = .ok (make (nodes.map Prod.fst)) := by
  have hinside : readItems inner (nodes.map Prod.snd) = .ok (nodes.map Prod.fst) := by
    refine readItems_nodes fun n hn => hnodes n hn ?_
    exact hfields.faultless (hv.faultless_of_mem hfaultless) _ (List.mem_map_of_mem hn)
  refine hv.readAt (fun f hf => ?_) hfaultless hp (fun ms hms => ?_) ?_
  · have hname : f.1 = operandsKey := by
      cases hfields with
      | given => rw [List.mem_singleton.mp hf]
      | leftOut => cases hf
    rw [hname]
    rcases ht with rfl | rfl <;> exact List.mem_cons_self
  · obtain ⟨o, ho, hget⟩ := readOperands_of_contains ht hfields hinside hms
    rw [hmembers ms o ho, hget]
  · exact hitems _ _ (readFirstSequence_of_givesList hfields hinside)

/-- Every spelling in which nothing is faulty is read as the condition wherever there is room. -/
theorem Spells.readAt (h : Spells c v) (hfaultless : v.faultless = true)
    (hp : p.HasRoom v.depth) : readAt byIndex inner p v = .ok c := by
  -- The conditions inside are read with the tags of `inner` and at a place without limits.
  have hroom : ∀ n, checkedPlace.HasRoom n := fun n => Place.hasRoom_of_unlimited rfl
  induction h generalizing byIndex p with
  | leaf hc hv =>
      obtain ⟨hmembers, hitems⟩ := ofLeaf_of_leafFields? hc
      refine hv.readAt (fun f hf => ?_) hfaultless hp hmembers hitems
      have hname : f.1 ∈ _ := List.mem_map_of_mem hf
      rwa [names_of_leafFields? hc] at hname
  | all h hfields hv ih =>
      refine hv.readAt_list (.inl rfl) hfields hfaultless hp
        (fun n hn hsound => ih n hn hsound (hroom _)) (fun ms o ho => ?_) fun vs cs hcs => ?_
      · rw [ofTag, ho]
        rfl
      · rw [ofItems, hcs]
        rfl
  | any h hfields hv ih =>
      refine hv.readAt_list (.inr rfl) hfields hfaultless hp
        (fun n hn hsound => ih n hn hsound (hroom _)) (fun ms o ho => ?_) fun vs cs hcs => ?_
      · rw [ofTag, ho]
        rfl
      · rw [ofItems, hcs]
        rfl
  | @not c w v h hv ih =>
      have hw : Condition.readAt inner inner checkedPlace w = .ok c :=
        ih (hv.faultless_of_mem hfaultless _ List.mem_cons_self) (hroom _)
      refine hv.readAt (List.forall_mem_singleton.mpr List.mem_cons_self) hfaultless hp
        (fun ms hms => ?_) ?_
      · rw [ofTag, readOperand_of_contains hw hms]
        rfl
      · rw [ofItems, List.map_cons, List.map_nil, readFirst, hw]
        rfl

/-! ## Written conditions -/

theorem isNode_record {name : String} (hname : (name, t) ∈ Tag.names)
    (fields : List (String × Json)) :
    IsNode t fields (Json.record ((tagKey, .string name) :: fields)) := by
  have hms : ((.ok tagKey, .string name) :: Record.members fields).Perm
      ((.ok tagKey, .string name) :: (Record.members fields ++ [])) := by
    rw [List.append_nil]
  exact .object hname hms fun k v h => absurd h List.not_mem_nil

theorem toJsons_eq_map (cs : List Condition) : toJsons cs = cs.map toJson := by
  induction cs with
  | nil => rw [toJsons, List.map_nil]
  | cons c cs ih => rw [toJsons, List.map_cons, ih]

/-- What a condition is written as spells it: the written form is one spelling among those that are
read. -/
theorem spells_toJson (c : Condition) : Spells c c.toJson := by
  have hnodes : ∀ cs : List Condition, (∀ c ∈ cs, Spells c c.toJson) →
      ∃ nodes : List (Condition × Json), nodes.map Prod.fst = cs ∧
        nodes.map Prod.snd = toJsons cs ∧ ∀ n ∈ nodes, Spells n.1 n.2 := by
    intro cs h
    refine ⟨cs.map fun c => (c, c.toJson), ?_, ?_, List.forall_mem_map.mpr h⟩
    · rw [List.map_map]
      exact List.map_id cs
    · rw [List.map_map, toJsons_eq_map]
      rfl
  induction c using Condition.induction with
  | all cs ih =>
      obtain ⟨nodes, rfl, hvalues, h⟩ := hnodes cs ih
      rw [toJson, ← hvalues]
      exact .all h .given (isNode_record (by decide) _)
  | any cs ih =>
      obtain ⟨nodes, rfl, hvalues, h⟩ := hnodes cs ih
      rw [toJson, ← hvalues]
      exact .any h .given (isNode_record (by decide) _)
  | not c ih =>
      rw [toJson]
      exact .not ih (isNode_record (by decide) _)
  | _ =>
      rw [toJson]
      exact .leaf rfl (isNode_record (by decide) _)

/-- There are no numbers in a written condition. -/
theorem isNumberless_toJson (c : Condition) : c.toJson.isNumberless = true := by
  have hconditions : ∀ cs : List Condition, (∀ c ∈ cs, c.toJson.isNumberless = true) →
      (Json.array (toJsons cs)).isNumberless = true := by
    intro cs h
    rw [toJsons_eq_map]
    exact Json.numberlessItems_iff.mpr (List.forall_mem_map.mpr h)
  induction c using Condition.induction with
  | method names =>
      have hnames : (Json.array (names.map .string)).isNumberless = true :=
        Json.numberlessItems_iff.mpr (List.forall_mem_map.mpr fun _ _ => rfl)
      rw [toJson, Json.isNumberless_record_iff]
      exact List.forall_mem_cons.mpr ⟨rfl, List.forall_mem_singleton.mpr hnames⟩
  | all cs ih =>
      rw [toJson, Json.isNumberless_record_iff]
      exact List.forall_mem_cons.mpr ⟨rfl, List.forall_mem_singleton.mpr (hconditions cs ih)⟩
  | any cs ih =>
      rw [toJson, Json.isNumberless_record_iff]
      exact List.forall_mem_cons.mpr ⟨rfl, List.forall_mem_singleton.mpr (hconditions cs ih)⟩
  | not c ih =>
      rw [toJson, Json.isNumberless_record_iff]
      exact List.forall_mem_cons.mpr ⟨rfl, List.forall_mem_singleton.mpr ih⟩
  | _ =>
      rw [toJson, Json.isNumberless_record_iff]
      simp [Json.isNumberless]

theorem faultless_toJson (c : Condition) : c.toJson.faultless = true :=
  Json.faultless_of_isNumberless c.isNumberless_toJson

/-- The reader of conditions takes what a condition is written as for the condition. -/
theorem reads_toJson (c : Condition) : reader.Reads c.toJson c :=
  fun _ hp => (spells_toJson c).readAt c.faultless_toJson hp

/-! ## Documents -/

theorem hasRoom_top_json_iff {n : Nat} : (Place.top .json).HasRoom n ↔ n ≤ Json.maxDepth := by
  constructor
  · intro h
    have hlt := h 128 rfl
    show n ≤ 127
    exact Nat.le_of_lt_succ (by simpa [Place.top] using hlt)
  · rintro h limit ⟨⟩
    show 0 + n < 128
    rw [Nat.zero_add]
    exact Nat.lt_succ_of_le h

theorem read_eq_ok_iff_of_spells {text : String} (htext : Json.parse? text = some v)
    (h : Spells c v) :
    DocumentFormat.json.read reader text = .ok c ↔ v.isSound = true := by
  have hread : DocumentFormat.json.read reader text =
      Condition.readAt false true (Place.top .json) v := by
    rw [DocumentFormat.read, htext]
    rfl
  rw [hread, Json.isSound_iff, ← hasRoom_top_json_iff]
  exact ⟨faultless_of_readAt, fun hv => h.readAt hv.1 hv.2⟩

/-- A text that spells a condition, in whatever forms at its nodes, is read as the condition just
when it can be held in memory: nothing beside the fields is faulty, and the nesting is not too deep.
What a condition is written as is such a text without anything beside the fields, so it is read back
just when the condition is not nested too deeply. -/
theorem read_iff_of_spelling :
    (∀ c v text, Spells c v → Json.parse? text = some v →
      (DocumentFormat.json.read reader text = .ok c ↔ v.isSound = true)) ∧
    ∀ c : Condition, Spells c c.toJson ∧ Json.parse? c.toJson.compact = some c.toJson ∧
      (DocumentFormat.json.read reader c.toJson.compact = .ok c ↔
        c.toJson.depth ≤ Json.maxDepth) := by
  refine ⟨fun c v text h htext => read_eq_ok_iff_of_spells htext h, fun c => ?_⟩
  have hparse := Json.parse?_compact c.isNumberless_toJson
  refine ⟨spells_toJson c, hparse, ?_⟩
  rw [read_eq_ok_iff_of_spells hparse (spells_toJson c), Json.isSound_iff]
  exact and_iff_right c.faultless_toJson

/-- A disjunction as an array, with objects in it. One of these is around an array, and one leaves
its empty list out. -/
def mixedForms : Json :=
  .array [.string "any", .array [
    .object [(.ok "condition", .array [.string "header_equals", .string "a", .string "b"]),
      (.ok "note", .null), (.ok "type", .string "not")],
    .object [(.ok "type", .string "all"), (.ok "note", .null)]]]

theorem read_iff_of_spelling_mixedForms :
    DocumentFormat.json.read reader mixedForms.compact =
      .ok (.any [.not (.headerEquals "a" "b"), .all []]) := by
  have hheader : Spells (.headerEquals "a" "b")
      (.array [.string "header_equals", .string "a", .string "b"]) :=
    .leaf rfl (.array (by decide))
  have hnote : ∀ {t : Tag}, "note" ∉ t.fieldNames → ∀ k v,
      ((.ok k : Key), v) ∈ [((.ok "note" : Key), Json.null)] → k ≠ tagKey ∧ k ∉ t.fieldNames := by
    intro t ht k v hmem
    cases List.mem_singleton.mp hmem
    exact ⟨by decide, ht⟩
  have hnot : Spells (.not (.headerEquals "a" "b"))
      (.object [(.ok "condition", .array [.string "header_equals", .string "a", .string "b"]),
        (.ok "note", .null), (.ok "type", .string "not")]) :=
    .not hheader (.object (by decide) (@List.perm_middle _ _ [_, _] _) (hnote (by decide)))
  have hall : Spells (.all []) (.object [(.ok "type", .string "all"), (.ok "note", .null)]) :=
    @Spells.all [] _ _ (List.forall_mem_nil _) (.leftOut rfl)
      (.object (by decide) (.refl _) (hnote (by decide)))
  have hmixed : Spells (.any [.not (.headerEquals "a" "b"), .all []]) mixedForms :=
    @Spells.any [(_, _), (_, _)] _ _ (List.forall_mem_cons.mpr
      ⟨hnot, List.forall_mem_singleton.mpr hall⟩) .given (.array (by decide))
  have hparse : Json.parse? mixedForms.compact = some mixedForms := Json.parse?_compact rfl
  exact (read_iff_of_spelling.1 _ _ _ hmixed hparse).mpr rfl

def negations : Nat → Condition
  | 0 => .always
  | n + 1 => .not (negations n)

theorem depth_negations (n : Nat) : (negations n).toJson.depth = n + 1 := by
  induction n with
  | zero => rfl
  | succ n ih =>
      rw [negations, toJson]
      show max 0 (max (negations n).toJson.depth 0) + 1 = _
      rw [ih]
      omega

def besideHugeNumber : String := "\x7b\"type\":\"always\",\"x\":1e999\x7d"

theorem exists_parse?_besideHugeNumber : ∃ w : Json, w.faultless = false ∧
    Json.parse? besideHugeNumber = some (Json.record [("type", .string "always"), ("x", w)]) := by
  have htext : besideHugeNumber = Json.objectText [Json.compactMember ("type", .string "always"),
      ⟨String.ofList (Json.literal "x"), "1e999"⟩] := by
    decide +kernel
  have hfaulty : (Json.parse? "1e999").any (!·.faultless) = true := by decide +kernel
  obtain ⟨w, hw, hfaulty⟩ := (Option.any_eq_true _ _).mp hfaulty
  refine ⟨w, by simpa using hfaulty, ?_⟩
  rw [htext]
  exact Json.parse?_objectText (.cons ⟨Json.isLiteralOf_literal _, Json.parse?_compact rfl⟩
    (.cons ⟨Json.isLiteralOf_literal _, hw⟩ .nil))

theorem spells_always_beside (w : Json) :
    Spells .always (Json.record [("type", .string "always"), ("x", w)]) := by
  have hms : [((.ok "type" : Key), Json.string "always"), (.ok "x", w)].Perm
      ((.ok tagKey, .string "always") :: (Record.members [] ++ [(.ok "x", w)])) := .refl _
  refine .leaf rfl (.object (by decide) hms fun k v hmem => ?_)
  cases List.mem_singleton.mp hmem
  exact ⟨by decide, by decide⟩

/-- A condition that is nested too deeply is not read back, and one is not read that has a number
beside it that cannot be held. -/
theorem exists_spelling_not_read :
    (Spells (negations 127) (negations 127).toJson ∧
      Json.parse? (negations 127).toJson.compact = some (negations 127).toJson ∧
      DocumentFormat.json.read reader (negations 127).toJson.compact ≠ .ok (negations 127)) ∧
    ∃ v, Spells .always v ∧ Json.parse? besideHugeNumber = some v ∧
      DocumentFormat.json.read reader besideHugeNumber ≠ .ok .always := by
  constructor
  · have hparse := Json.parse?_compact (negations 127).isNumberless_toJson
    refine ⟨spells_toJson _, hparse, fun h => ?_⟩
    have hsound := (read_eq_ok_iff_of_spells hparse (spells_toJson _)).mp h
    have hdepth := (Json.isSound_iff.mp hsound).2
    rw [depth_negations] at hdepth
    exact absurd hdepth (by decide)
  · obtain ⟨w, hfaulty, hparse⟩ := exists_parse?_besideHugeNumber
    refine ⟨_, spells_always_beside w, hparse, fun h => ?_⟩
    have hsound := (read_eq_ok_iff_of_spells hparse (spells_always_beside w)).mp h
    have hmember := Json.isSound_record_iff.mp hsound ("x", w) (List.mem_of_getElem? (i := 1) rfl)
    rw [hmember.faultless] at hfaulty
    cases hfaulty

end Condition

end StageRelay
