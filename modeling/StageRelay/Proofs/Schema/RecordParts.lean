import StageRelay.Proofs.Schema.Respelling

/-!
# What a document gives for a field

A map gives a field its value under one of the field's names, an array gives it at the field's
index. Most fields set a part of the record that no other field touches. Of a record that is read,
such a part is what the reader of the field makes of the value that the document gives, and if the
document gives none it is the part of the draft.
-/

namespace StageRelay

namespace Record

variable {ρ α : Type} {r : Record ρ} {fields : List (Field ρ)} {f : Field ρ} {reader : Reader α}
variable {get : ρ → α} {name : String} {p : Place}

/-- The value that a document gives for the field of a name: as a member of an object, under any of
the names of the field, or as an item of an array. -/
inductive Gives (r : Record ρ) (name : String) : Json → Json → Prop where
  | member {f : Field ρ} {k : String} {ms : List (Key × Json)} {v : Json} (hf : f ∈ r.fields)
      (hname : f.name = name) (hk : f.answersTo k = true) (hv : (.ok k, v) ∈ ms) :
      Gives r name (.object ms) v
  | item {f : Field ρ} {i : Nat} {vs : List Json} {v : Json} (hf : r.fields[i]? = some f)
      (hname : f.name = name) (hv : vs[i]? = some v) : Gives r name (.array vs) v

/-- A field sets a part of the record to what a reader gives, and it alone does. So the part can be
followed from the document into the record. -/
structure SetsPart (fields : List (Field ρ)) (f : Field ρ) (reader : Reader α) (get : ρ → α) :
    Prop where
  reads : ∃ set, f.read = reader.map set ∧ ∀ a x, get (set a x) = a
  keeps : ∀ g ∈ fields, g.name ≠ f.name → ∀ a, g.Keeps (get · = a)

/-- The update that the field reads. -/
theorem SetsPart.exists_of_read (h : SetsPart fields f reader get) {v : Json} {update : ρ → ρ}
    (hread : f.read p v = .ok update) : ∃ a, reader p v = .ok a ∧ ∀ x, get (update x) = a := by
  obtain ⟨set, hf, hset⟩ := h.reads
  rw [hf] at hread
  obtain ⟨a, ha, rfl⟩ := Reader.exists_of_map_eq_ok hread
  exact ⟨a, ha, hset a⟩

theorem SetsPart.get_update (h : SetsPart fields f reader get) {g : Field ρ} (hg : g ∈ fields)
    (hne : g.name ≠ f.name) {v : Json} {update : ρ → ρ} (hread : g.read p v = .ok update) (x : ρ) :
    get (update x) = get x :=
  h.keeps g hg hne (get x) p v update hread x rfl

theorem SetsPart.tail {g : Field ρ} (h : SetsPart (g :: fields) f reader get) :
    SetsPart fields f reader get :=
  ⟨h.reads, fun g' hg' => h.keeps g' (List.mem_cons_of_mem _ hg')⟩

/-! ## Members -/

def NotNamed (f : Field ρ) (ms : List (Key × Json)) : Prop :=
  ∀ k v, (.ok k, v) ∈ ms → f.answersTo k = false

/-- What one member does to a part and to the question whether its field was given. -/
theorem SetsPart.takeMember_cases (h : SetsPart fields f reader get)
    (hfields : Unambiguous fields) (hf : f ∈ fields) {s t : Progress ρ} {key : Key} {v : Json}
    (ht : takeMember fields p s key v = .ok t) :
    (∃ k, key = .ok k ∧ f.answersTo k = true ∧ f.name ∉ s.given ∧ f.name ∈ t.given ∧
      reader p v = .ok (get t.draft)) ∨
    ((∀ k, key = .ok k → f.answersTo k = false) ∧ (f.name ∈ t.given ↔ f.name ∈ s.given) ∧
      get t.draft = get s.draft) := by
  obtain ⟨k, rfl, ⟨hnone, rfl⟩ | ⟨g, update, hg, hread, hnew, rfl⟩⟩ :=
    takeMember_eq_ok_iff.mp ht
  · right
    refine ⟨?_, Iff.rfl, rfl⟩
    rintro _ ⟨⟩
    exact Bool.eq_false_iff.mpr (List.find?_eq_none.mp hnone f hf)
  · have hmem := List.mem_of_find?_eq_some hg
    by_cases hname : g.name = f.name
    · left
      obtain rfl := eq_of_name_eq hfields hf hmem hname
      have hk := List.find?_some hg
      obtain ⟨a, ha, hget⟩ := h.exists_of_read hread
      refine ⟨k, rfl, hk, hnew, List.mem_cons_self, ?_⟩
      rw [ha]
      exact congrArg Except.ok (hget s.draft).symm
    · right
      refine ⟨?_, ?_, h.get_update hmem hname hread s.draft⟩
      · -- If this field answered to the name, it would be the one that is found.
        rintro _ ⟨⟩
        refine Bool.eq_false_iff.mpr fun hk => hname ?_
        rw [find?_of_answersTo hfields hf hk] at hg
        rw [Option.some.inj hg]
      · simp only [List.mem_cons, Ne.symm hname, false_or]

/-- Once a field is given, no other member is under a name of it, and its part stays. -/
theorem SetsPart.takeMembers_of_given (h : SetsPart fields f reader get)
    (hfields : Unambiguous fields) (hf : f ∈ fields) {s t : Progress ρ} {ms : List (Key × Json)}
    (hs : f.name ∈ s.given) (ht : takeMembers fields p s ms = .ok t) :
    NotNamed f ms ∧ get t.draft = get s.draft := by
  induction ms generalizing s with
  | nil =>
      cases ht
      exact ⟨fun _ _ hmem => absurd hmem List.not_mem_nil, rfl⟩
  | cons m ms ih =>
      obtain ⟨u, hfirst, hrest⟩ := Reader.exists_of_bind_eq_ok ht
      rcases h.takeMember_cases hfields hf hfirst with ⟨-, -, -, hnew, -⟩ | ⟨hk, hgiven, hget⟩
      · exact absurd hs hnew
      · obtain ⟨hms, hsame⟩ := ih (hgiven.mpr hs) hrest
        refine ⟨fun k v hmem => ?_, hsame.trans hget⟩
        rcases List.mem_cons.mp hmem with rfl | hmem
        · exact hk k rfl
        · exact hms k v hmem

/-- A part is what a member gives, or what it was. -/
theorem SetsPart.takeMembers (h : SetsPart fields f reader get) (hfields : Unambiguous fields)
    (hf : f ∈ fields) {s t : Progress ρ} {ms : List (Key × Json)} (hs : f.name ∉ s.given)
    (ht : takeMembers fields p s ms = .ok t) :
    (∀ k v, (.ok k, v) ∈ ms → f.answersTo k = true → reader p v = .ok (get t.draft)) ∧
      (NotNamed f ms → f.name ∉ t.given ∧ get t.draft = get s.draft) := by
  induction ms generalizing s with
  | nil =>
      cases ht
      exact ⟨fun _ _ hmem => absurd hmem List.not_mem_nil, fun _ => ⟨hs, rfl⟩⟩
  | cons m ms ih =>
      obtain ⟨u, hfirst, hrest⟩ := Reader.exists_of_bind_eq_ok ht
      rcases h.takeMember_cases hfields hf hfirst with
        ⟨k, hkey, hk, -, hgiven, hread⟩ | ⟨hk, hgiven, hget⟩
      · obtain ⟨hms, hsame⟩ := h.takeMembers_of_given hfields hf hgiven hrest
        refine ⟨fun k' v hmem hk' => ?_, fun hnone => ?_⟩
        · rcases List.mem_cons.mp hmem with rfl | hmem
          · rw [hsame]
            exact hread
          · rw [hms k' v hmem] at hk'
            cases hk'
        · rw [hnone k m.2 (hkey ▸ List.mem_cons_self)] at hk
          cases hk
      · obtain ⟨hms, hnone⟩ := ih (mt hgiven.mp hs) hrest
        refine ⟨fun k' v hmem hk' => ?_, fun hnot => ?_⟩
        · rcases List.mem_cons.mp hmem with rfl | hmem
          · rw [hk k' rfl] at hk'
            cases hk'
          · exact hms k' v hmem hk'
        · obtain ⟨hgiven', hsame⟩ := hnone fun k v hmem => hnot k v (List.mem_cons_of_mem _ hmem)
          exact ⟨hgiven', hsame.trans hget⟩

/-! ## Items -/

theorem name_ne_of_unambiguous {g : Field ρ} (h : Unambiguous (g :: fields)) (hf : f ∈ fields) :
    f.name ≠ g.name := by
  intro hname
  have hother := (List.pairwise_cons.mp h).1 f hf g.name List.mem_cons_self
  rw [← hname, f.answersTo_name] at hother
  cases hother

/-- A part is what the item at the index of its field gives, or what it was. -/
theorem SetsPart.takeItems {whole : String} {n i : Nat} {vs : List Json} {x y : ρ}
    (h : SetsPart fields f reader get) (hfields : Unambiguous fields) (hf : fields[i]? = some f)
    (hy : takeItems whole p n fields x vs = .ok y) :
    (∀ v, vs[i]? = some v → reader p v = .ok (get y)) ∧
      (vs[i]? = none → f.required = false ∧ get y = get x) := by
  induction fields generalizing n i vs x with
  | nil => cases hf
  | cons g fields ih =>
      have hrest : Unambiguous fields := (List.pairwise_cons.mp hfields).2
      cases i with
      | zero =>
          obtain rfl : g = f := Option.some.inj hf
          -- No field behind this one touches the part.
          have hothers : ∀ a, ∀ g' ∈ fields, g'.Keeps (get · = a) := fun a g' hg' =>
            h.tail.keeps g' hg' (name_ne_of_unambiguous hfields hg') a
          cases vs with
          | nil =>
              rw [Record.takeItems] at hy
              split at hy
              next => cases hy
              next hrequired =>
                refine ⟨fun v hv => absurd hv (Option.some_ne_none v).symm,
                  fun _ => ⟨Bool.eq_false_iff.mpr hrequired, ?_⟩⟩
                exact takeItems_keeps (P := (get · = get x)) (hothers _) rfl hy
          | cons v vs =>
              obtain ⟨update, hread, hy⟩ := Reader.exists_of_bind_eq_ok hy
              obtain ⟨a, ha, hget⟩ := h.exists_of_read hread
              have hkept : get y = a :=
                takeItems_keeps (P := (get · = a)) (hothers a) (hget x) hy
              refine ⟨fun w hw => ?_, fun hnone => absurd hnone (Option.some_ne_none v)⟩
              obtain rfl : v = w := Option.some.inj hw
              rw [ha, hkept]
      | succ i =>
          rw [List.getElem?_cons_succ] at hf
          have hmem : f ∈ fields := List.mem_of_getElem? hf
          cases vs with
          | nil =>
              rw [Record.takeItems] at hy
              split at hy
              next => cases hy
              next =>
                have hparts := ih h.tail hrest hf hy
                rwa [List.getElem?_nil] at hparts ⊢
          | cons v vs =>
              obtain ⟨update, hread, hy⟩ := Reader.exists_of_bind_eq_ok hy
              have hkept : get (update x) = get x := h.get_update List.mem_cons_self
                (name_ne_of_unambiguous hfields hmem).symm hread x
              obtain ⟨hgiven, hnone⟩ := ih h.tail hrest hf hy
              rw [List.getElem?_cons_succ]
              exact ⟨hgiven, fun hv => (hnone hv).imp_right fun hy => hy.trans hkept⟩

/-! ## Records -/

/-- A part of a record that is read is what the document gives for its field, or else it is that of
the draft. -/
theorem SetsPart.read (h : SetsPart r.fields f reader get) (hfields : Unambiguous r.fields)
    (hf : f ∈ r.fields) {doc : Json} {x : ρ} (hread : r.read p doc = .ok x) :
    ∃ q, (∀ v, r.Gives f.name doc v → reader q v = .ok (get x)) ∧
      ((∀ v, ¬ r.Gives f.name doc v) → f.required = false ∧ get x = get r.draft) := by
  unfold Record.read at hread
  split at hread
  next ms =>
    obtain ⟨q, -, hread⟩ := Reader.exists_of_bind_eq_ok hread
    obtain ⟨given, htake, hmissing⟩ := ofMembers_eq_ok_iff.mp hread
    obtain ⟨hgiven, hnone⟩ := h.takeMembers hfields hf List.not_mem_nil htake
    refine ⟨q, fun v hv => ?_, fun hnot => ?_⟩
    · cases hv with
      | member hg hname hk hv =>
          rw [eq_of_name_eq hfields hf hg hname] at hk
          exact hgiven _ v hv hk
    · have hnamed : NotNamed f ms := fun k v hv => Bool.eq_false_iff.mpr fun hk =>
        hnot v (.member hf rfl hk hv)
      obtain ⟨hmem, hdraft⟩ := hnone hnamed
      refine ⟨Bool.eq_false_iff.mpr fun hrequired => ?_, hdraft⟩
      exact hmem (missing?_eq_none_iff.mp hmissing f hf hrequired)
  next vs =>
    obtain ⟨q, -, hread⟩ := Reader.exists_of_bind_eq_ok hread
    refine ⟨q, fun v hv => ?_, fun hnot => ?_⟩
    · cases hv with
      | item hg hname hv =>
          rw [eq_of_name_eq hfields hf (List.mem_of_getElem? hg) hname] at hg
          exact (h.takeItems hfields hg hread).1 v hv
    · obtain ⟨i, hi⟩ := List.mem_iff_getElem?.mp hf
      refine (h.takeItems hfields hi hread).2 (Option.eq_none_iff_forall_ne_some.mpr fun v hv => ?_)
      exact hnot v (.item hi rfl hv)
  next => exact absurd hread (Reader.mismatch_ne_ok _ _ _)

end Record

end StageRelay
