import StageRelay.Proofs.Schema.Reading
import StageRelay.Schema.Record

/-!
# What records are read as

A map that gives fields of a record under their own names, in their declared order, is read by
updating the draft field by field. `Record.Fills` relates the declared fields, the members and the
update that they make together; a field that is not required may be left out. It takes that no
field answers to the name of another one.

A property of the draft that every field keeps is a property of all records that are read,
whichever form they are written in.
-/

namespace StageRelay

namespace Field

variable {ρ α : Type}

/-- Every update that the field reads keeps a property of the record, so that the whole reading
keeps it. -/
def Keeps (f : Field ρ) (P : ρ → Prop) : Prop :=
  f.read.Ensures fun update => ∀ x, P x → P (update x)

section

variable {f : Field ρ} {r : Reader α} {set : α → ρ → ρ} {P : ρ → Prop} {Q : α → Prop}

theorem keeps_of_ensures (hf : f.read = r.map set) (h : r.Ensures Q)
    (hset : ∀ a, Q a → ∀ x, P x → P (set a x)) : f.Keeps P := by
  rw [Keeps, hf]
  exact h.map hset

/-- A field that has nothing to do with a property keeps it. -/
theorem keeps_of_forall (hf : f.read = r.map set) (hset : ∀ a x, P x → P (set a x)) :
    f.Keeps P :=
  keeps_of_ensures hf r.ensures_true fun a _ => hset a

end

theorem answersTo_name (f : Field ρ) : f.answersTo f.name = true := by
  simp [answersTo]

end Field

namespace Record

variable {ρ : Type}

/-- No field answers to the name of another one. -/
def Separate (fields : List (Field ρ)) : Prop :=
  fields.Pairwise fun f g => f.answersTo g.name = false ∧ g.answersTo f.name = false

instance (fields : List (Field ρ)) : Decidable (Separate fields) :=
  inferInstanceAs (Decidable (fields.Pairwise _))

/-- The members give fields in their declared order, and together they are an update of the
draft. -/
inductive Fills : List (Field ρ) → List (String × Json) → (ρ → ρ) → Prop where
  | nil : Fills [] [] id
  | give {f : Field ρ} {v : Json} {update : ρ → ρ} {fields : List (Field ρ)}
      {ms : List (String × Json)} {others : ρ → ρ} (hread : f.read.Reads v update)
      (h : Fills fields ms others) : Fills (f :: fields) ((f.name, v) :: ms) (others ∘ update)
  | leave {f : Field ρ} {fields : List (Field ρ)} {ms : List (String × Json)} {others : ρ → ρ}
      (hf : f.required = false) (h : Fills fields ms others) : Fills (f :: fields) ms others

def members (ms : List (String × Json)) : List (Key × Json) := ms.map fun m => (.ok m.1, m.2)

variable {before fields : List (Field ρ)} {ms : List (String × Json)} {update : ρ → ρ}

theorem find?_answersTo {f : Field ρ} (h : Separate (before ++ f :: fields)) :
    (before ++ f :: fields).find? (·.answersTo f.name) = some f := by
  obtain ⟨-, -, hbefore⟩ := List.pairwise_append.mp h
  rw [List.find?_append, List.find?_eq_none.mpr, Option.none_or, List.find?_cons_of_pos]
  · exact f.answersTo_name
  · intro g hg
    rw [(hbefore g hg f List.mem_cons_self).1]
    exact Bool.false_ne_true

/-- A member by the field that its name belongs to. -/
theorem takeMember_of_read {k : Key} {key : String} (hkey : k.read = .ok key) (p : Place)
    (s : Progress ρ) (v : Json) :
    takeMember fields p s k v =
      match fields.find? (·.answersTo key) with
      | none => .ok s
      | some f =>
        if f.name ∈ s.given then .error (.duplicateField f.name)
        else f.read p v >>= fun update => .ok ⟨update s.draft, f.name :: s.given⟩ := by
  rw [takeMember, hkey]
  simp only [List.contains_iff_mem]
  rfl

/-- What one member does: nothing if no field answers to it, and else it updates the draft. -/
theorem takeMember_eq_ok_iff {p : Place} {s t : Progress ρ} {k : Key} {v : Json} :
    takeMember fields p s k v = .ok t ↔
      ∃ key, k = .ok key ∧ (fields.find? (·.answersTo key) = none ∧ t = s ∨
        ∃ f update, fields.find? (·.answersTo key) = some f ∧ f.read p v = .ok update ∧
          f.name ∉ s.given ∧ t = ⟨update s.draft, f.name :: s.given⟩) := by
  cases k with
  | error fault => exact iff_of_false (by rintro ⟨⟩) (by rintro ⟨_, ⟨⟩, _⟩)
  | ok key =>
      rw [takeMember_of_read rfl]
      cases hfind : fields.find? (·.answersTo key) with
      | none =>
          constructor
          · rintro ⟨⟩
            exact ⟨key, rfl, .inl ⟨hfind, rfl⟩⟩
          · rintro ⟨_, ⟨⟩, ⟨-, rfl⟩ | ⟨f, update, hf, -⟩⟩
            · rfl
            · rw [hfind] at hf
              cases hf
      | some f =>
          constructor
          · intro h
            dsimp only at h
            split at h
            next => cases h
            next hnew =>
              obtain ⟨update, hread, h⟩ := Reader.exists_of_bind_eq_ok h
              cases h
              exact ⟨key, rfl, .inr ⟨f, update, hfind, hread, hnew, rfl⟩⟩
          · rintro ⟨_, ⟨⟩, ⟨hnone, -⟩ | ⟨g, update, hg, hread, hnew, rfl⟩⟩
            · rw [hfind] at hnone
              cases hnone
            · obtain rfl := Option.some.inj (hfind.symm.trans hg)
              dsimp only
              rw [if_neg hnew, hread]
              rfl

/-- What is taken from a member: nothing, or a field that was not given before. -/
theorem takeMember_cases {p : Place} {s t : Progress ρ} {k : Key} {v : Json}
    (h : takeMember fields p s k v = .ok t) :
    t = s ∨ ∃ g ∈ fields, ∃ update, g.read p v = .ok update ∧ g.name ∉ s.given ∧
      t = ⟨update s.draft, g.name :: s.given⟩ := by
  obtain ⟨key, -, ⟨-, hsame⟩ | ⟨g, update, hg, htaken⟩⟩ := takeMember_eq_ok_iff.mp h
  · exact .inl hsame
  · exact .inr ⟨g, List.mem_of_find?_eq_some hg, update, htaken⟩

/-- A member that gives a field for the first time updates the draft. -/
theorem takeMember_of_reads {f : Field ρ} {v : Json} (hseparate : Separate (before ++ f :: fields))
    (hread : f.read.Reads v update) {p : Place} (hp : p.HasRoom v.depth) (draft : ρ)
    {given : List String} (hgiven : f.name ∉ given) :
    takeMember (before ++ f :: fields) p ⟨draft, given⟩ (.ok f.name) v =
      .ok ⟨update draft, f.name :: given⟩ := by
  rw [takeMember_of_read rfl, find?_answersTo hseparate]
  simp only [hgiven, if_false]
  rw [hread p hp]
  rfl

/-- Members that give some of the last fields, behind members that have given none of them. -/
theorem takeMembers_of_fills (hseparate : Separate (before ++ fields))
    (h : Fills fields ms update) (p : Place) (hp : p.HasRoom (Json.depthOfMembers (members ms)))
    (draft : ρ) (given : List String) (hgiven : ∀ f ∈ fields, f.name ∉ given) :
    ∃ given', takeMembers (before ++ fields) p ⟨draft, given⟩ (members ms) =
        .ok ⟨update draft, given'⟩ ∧
      given ⊆ given' ∧ ∀ f ∈ fields, f.required = true → f.name ∈ given' := by
  -- Names are looked up among all fields, so those that are done with move over to `before`.
  induction h generalizing before draft given with
  | nil => exact ⟨given, rfl, List.Subset.refl _, List.forall_mem_nil _⟩
  | @give f v update fields ms others hread h ih =>
      obtain ⟨hfirst, hgiven⟩ := List.forall_mem_cons.mp hgiven
      have hrest : p.HasRoom (Json.depthOfMembers (members ms)) := hp.mono (Nat.le_max_right _ _)
      have htakeFirst := takeMember_of_reads hseparate hread (hp.mono (Nat.le_max_left _ _)) draft
        hfirst
      obtain ⟨-, hfields, -⟩ := List.pairwise_append.mp hseparate
      have hothers : ∀ g ∈ fields, g.name ∉ f.name :: given := by
        intro g hg hmem
        rcases List.mem_cons.mp hmem with hname | hmem
        · have hanswers := ((List.pairwise_cons.mp hfields).1 g hg).1
          rw [hname, f.answersTo_name] at hanswers
          cases hanswers
        · exact hgiven g hg hmem
      have hsplit : before ++ f :: fields = (before ++ [f]) ++ fields := by simp
      rw [hsplit] at hseparate htakeFirst ⊢
      obtain ⟨given', htake, hsubset, hrequired⟩ :=
        ih hseparate hrest (update draft) (f.name :: given) hothers
      refine ⟨given', ?_, fun name hname => hsubset (List.mem_cons_of_mem _ hname),
        List.forall_mem_cons.mpr ⟨fun _ => hsubset List.mem_cons_self, hrequired⟩⟩
      show (takeMember ((before ++ [f]) ++ fields) p ⟨draft, given⟩ (.ok f.name) v >>= fun s =>
        takeMembers _ p s (members ms)) = _
      rw [htakeFirst]
      exact htake
  | @leave f fields ms others hf h ih =>
      have hsplit : before ++ f :: fields = (before ++ [f]) ++ fields := by simp
      rw [hsplit] at hseparate ⊢
      obtain ⟨-, hgiven⟩ := List.forall_mem_cons.mp hgiven
      obtain ⟨given', htake, hsubset, hrequired⟩ := ih hseparate hp draft given hgiven
      refine ⟨given', htake, hsubset, List.forall_mem_cons.mpr ⟨?_, hrequired⟩⟩
      intro hrequired
      rw [hf] at hrequired
      cases hrequired

theorem missing?_eq_none_iff {given : List String} :
    missing? fields given = none ↔ ∀ f ∈ fields, f.required = true → f.name ∈ given := by
  simp [missing?]

theorem ofMembers_eq_ok_iff {r : Record ρ} {p : Place} {ms : List (Key × Json)} {x : ρ} :
    r.ofMembers p ms = .ok x ↔ ∃ given, takeMembers r.fields p ⟨r.draft, []⟩ ms = .ok ⟨x, given⟩ ∧
      missing? r.fields given = none := by
  rw [ofMembers]
  constructor
  · intro h
    obtain ⟨⟨draft, given⟩, hs, h⟩ := Reader.exists_of_bind_eq_ok h
    split at h
    next => cases h
    next hmissing =>
      cases h
      exact ⟨given, hs, hmissing⟩
  · rintro ⟨given, hs, hmissing⟩
    simp only [hs, bind, Except.bind, hmissing]
    rfl

/-- The members of a map that give the fields of a record. -/
theorem ofMembers_of_fills {r : Record ρ} (hseparate : Separate r.fields)
    (h : Fills r.fields ms update) {p : Place}
    (hp : p.HasRoom (Json.depthOfMembers (members ms))) :
    r.ofMembers p (members ms) = .ok (update r.draft) := by
  obtain ⟨given', htake, -, hrequired⟩ :=
    takeMembers_of_fills (show Separate ([] ++ r.fields) from hseparate) h p hp r.draft []
      (by simp)
  rw [List.nil_append] at htake
  refine ofMembers_eq_ok_iff.mpr ⟨given', htake, ?_⟩
  rw [missing?_eq_none_iff]
  exact hrequired

/-- A record is read from a map of its fields. -/
theorem reads_of_fills {r : Record ρ} (hseparate : Separate r.fields)
    (h : Fills r.fields ms update) : r.read.Reads (Json.record ms) (update r.draft) := by
  intro p hp
  obtain ⟨q, hq, hroom⟩ := Place.HasRoom.enter hp
  show (p.enter >>= fun q => r.ofMembers q (members ms)) = _
  rw [hq]
  exact ofMembers_of_fills hseparate h hroom

/-! ## Members that no field answers to -/

theorem takeMember_of_unknown {k : String} (hk : ∀ f ∈ fields, f.answersTo k = false) (p : Place)
    (s : Progress ρ) (v : Json) : takeMember fields p s (.ok k) v = .ok s := by
  have hfind : fields.find? (·.answersTo k) = none :=
    List.find?_eq_none.mpr fun f hf => by simp [hk f hf]
  rw [takeMember_of_read rfl, hfind]

theorem takeMembers_append {p : Place} (s : Progress ρ) (ms ns : List (Key × Json)) :
    takeMembers fields p s (ms ++ ns) =
      takeMembers fields p s ms >>= fun t => takeMembers fields p t ns := by
  induction ms generalizing s with
  | nil => rfl
  | cons m ms ih =>
      rw [List.cons_append, takeMembers, takeMembers, bind_assoc]
      exact congrArg _ (funext fun t => ih t)

/-- Such a member is passed over. -/
theorem ofMembers_of_unknown {r : Record ρ} {k : String}
    (hk : ∀ f ∈ r.fields, f.answersTo k = false) {p : Place} (v : Json)
    (ms ns : List (Key × Json)) :
    r.ofMembers p (ms ++ (.ok k, v) :: ns) = r.ofMembers p (ms ++ ns) := by
  have htake : takeMembers r.fields p ⟨r.draft, []⟩ (ms ++ (.ok k, v) :: ns) =
      takeMembers r.fields p ⟨r.draft, []⟩ (ms ++ ns) := by
    rw [takeMembers_append, takeMembers_append]
    refine congrArg _ (funext fun t => ?_)
    rw [takeMembers, takeMember_of_unknown hk]
    rfl
  rw [ofMembers, ofMembers, htake]

/-! ## Properties of records -/

variable {P : ρ → Prop}

theorem takeMembers_keeps {p : Place} {ms : List (Key × Json)} {s t : Progress ρ}
    (hfields : ∀ f ∈ fields, f.Keeps P) (hs : P s.draft)
    (h : takeMembers fields p s ms = .ok t) : P t.draft := by
  induction ms generalizing s with
  | nil =>
      cases h
      exact hs
  | cons m ms ih =>
      obtain ⟨u, hfirst, hrest⟩ := Reader.exists_of_bind_eq_ok h
      rcases takeMember_cases hfirst with rfl | ⟨f, hf, update, hupdate, -, rfl⟩
      · exact ih hs hrest
      · exact ih (hfields f hf p m.2 update hupdate _ hs) hrest

theorem takeItems_keeps {whole : String} {p : Place} {n : Nat} {vs : List Json} {x y : ρ}
    (hfields : ∀ f ∈ fields, f.Keeps P) (hx : P x)
    (h : takeItems whole p n fields x vs = .ok y) : P y := by
  induction fields generalizing n vs x with
  | nil =>
      cases vs with
      | nil =>
          cases h
          exact hx
      | cons v vs =>
          rw [takeItems] at h
          split at h
          next =>
            cases h
            exact hx
          next => cases h
  | cons f fields ih =>
      obtain ⟨hf, hothers⟩ := List.forall_mem_cons.mp hfields
      cases vs with
      | nil =>
          rw [takeItems] at h
          split at h
          next => cases h
          next => exact ih hothers hx h
      | cons v vs =>
          obtain ⟨update, hupdate, h⟩ := Reader.exists_of_bind_eq_ok h
          exact ih hothers (hf p v update hupdate x hx) h

/-- What the draft has and every field keeps, every record has that is read. The order of the fields
and what is left out do not matter. -/
theorem ensures_read {r : Record ρ} (hdraft : P r.draft) (hfields : ∀ f ∈ r.fields, f.Keeps P) :
    r.read.Ensures P := by
  intro p v x h
  unfold read at h
  split at h
  next =>
    obtain ⟨q, -, h⟩ := Reader.exists_of_bind_eq_ok h
    obtain ⟨given, htake, -⟩ := ofMembers_eq_ok_iff.mp h
    exact takeMembers_keeps hfields hdraft htake
  next =>
    obtain ⟨q, -, h⟩ := Reader.exists_of_bind_eq_ok h
    exact takeItems_keeps hfields hdraft h
  next => exact absurd h (Reader.mismatch_ne_ok _ _ _)

end Record

end StageRelay
