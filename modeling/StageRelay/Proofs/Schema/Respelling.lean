import Mathlib.Data.List.Pairwise
import StageRelay.Proofs.Schema.Records

/-!
# Other spellings of a document

A `Respelling` says which values may be written for which at a place. Sequences, maps and constants
have theirs, and a record is respelled in one of its members: the member gets another name of its
field, is added under a name that no field has, is left out because it gives what the record has
anyway, or its value is respelled in turn. A reader tolerates a respelling if it reads whatever it
has read before.

That a default may be left out takes two things. No field that is given may change what another
field is, and no name may belong to two fields.
-/

namespace StageRelay

/-- Whatever one attempt at reading gives, another attempt gives too. An error may become a value,
or another error. -/
def CarriedTo {α : Type} (x y : Except ReadError α) : Prop := ∀ a, x = .ok a → y = .ok a

namespace CarriedTo

variable {α β : Type} {x y : Except ReadError α}

theorem refl (x : Except ReadError α) : CarriedTo x x := fun _ h => h

theorem of_eq (h : x = y) : CarriedTo x y := h ▸ refl x

theorem bind {f g : α → Except ReadError β} (h : CarriedTo x y)
    (hfg : ∀ a, x = .ok a → CarriedTo (f a) (g a)) : CarriedTo (x >>= f) (y >>= g) := by
  intro b hb
  obtain ⟨a, ha, hf⟩ := Reader.exists_of_bind_eq_ok hb
  rw [h a ha]
  exact hfg a ha b hf

theorem bind_left (h : CarriedTo x y) (f : α → Except ReadError β) :
    CarriedTo (x >>= f) (y >>= f) :=
  h.bind fun a _ => refl (f a)

theorem bind_right (x : Except ReadError α) {f g : α → Except ReadError β}
    (hfg : ∀ a, x = .ok a → CarriedTo (f a) (g a)) : CarriedTo (x >>= f) (x >>= g) :=
  (refl x).bind hfg

theorem map (h : CarriedTo x y) (f : α → β) : CarriedTo (x.map f) (y.map f) := by
  intro b hb
  obtain ⟨a, ha, rfl⟩ := Reader.exists_of_map_eq_ok hb
  rw [h a ha]
  rfl

end CarriedTo

/-- Which values may be written for which at a place. The place counts, since formats differ in what
they allow. -/
abbrev Respelling := Place → Json → Json → Prop

namespace Respelling

variable {α : Type}

def Present (e : Respelling) : Respelling := fun p v v' => v ≠ .null ∧ v' ≠ .null ∧ e p v v'

inductive InSequence (e : Respelling) : Respelling where
  | item {p q : Place} {vs ws : List Json} {v v' : Json} (hq : p.enter = .ok q) (h : e q v v') :
      InSequence e p (.array (vs ++ v :: ws)) (.array (vs ++ v' :: ws))

inductive InTable (e : Respelling) : Respelling where
  | entry {p q : Place} {ms ns : List (Key × Json)} {k : Key} {v v' : Json} (hq : p.enter = .ok q)
      (h : e q v v') :
      InTable e p (.object (ms ++ (k, v) :: ns)) (.object (ms ++ (k, v') :: ns))

/-- A constant is given another of its names, also where the name stands as the only key of an
object. -/
inductive OfConstant (names : List (String × α)) : Respelling where
  | name {p : Place} {s s' : String} {a : α} (hs : (s, a) ∈ names) (hs' : (s', a) ∈ names) :
      OfConstant names p (.string s) (.string s')
  | key {p : Place} {s s' : String} {a : α} {v : Json} (hs : (s, a) ∈ names)
      (hs' : (s', a) ∈ names) :
      OfConstant names p (.object [(.ok s, v)]) (.object [(.ok s', v)])

end Respelling

namespace Reader

open Respelling

variable {α β : Type} {r : Reader α} {e : Respelling}

/-- What is read of a value is read of each other spelling of it. Lemmas about readers are put
together along it, one for each part of a document. -/
def Tolerates (r : Reader α) (e : Respelling) : Prop :=
  ∀ p v v', e p v v' → CarriedTo (r p v) (r p v')

theorem Tolerates.map (h : r.Tolerates e) (f : α → β) : (r.map f).Tolerates e :=
  fun p v v' he => (h p v v' he).map f

theorem tolerates_optional (h : r.Tolerates e) : (optional r).Tolerates (Present e) := by
  rintro p v v' ⟨hv, hv', he⟩
  have hpresent : ∀ w : Json, w ≠ .null → optional r p w = (r p w).map some := by
    intro w hw
    rw [optional]
    exact hw
  rw [hpresent v hv, hpresent v' hv']
  exact (h p v v' he).map some

theorem carriedTo_items {p : Place} {v v' : Json} (h : CarriedTo (r p v) (r p v'))
    (vs ws : List Json) :
    CarriedTo (items r p (vs ++ v :: ws)) (items r p (vs ++ v' :: ws)) := by
  induction vs with
  | nil =>
      rw [List.nil_append, List.nil_append, items, items]
      exact h.bind_left _
  | cons w vs ih =>
      rw [List.cons_append, List.cons_append, items, items]
      exact .bind_right _ fun _ _ => ih.bind_left _

theorem tolerates_sequence (h : r.Tolerates e) : (sequence r).Tolerates (InSequence e) := by
  rintro p - - ⟨hq, he⟩
  rw [sequence, sequence, hq]
  exact carriedTo_items (h _ _ _ he) _ _

theorem carriedTo_entries {p : Place} {v v' : Json} (h : CarriedTo (r p v) (r p v')) (k : Key)
    (ms ns : List (Key × Json)) :
    CarriedTo (entries r p (ms ++ (k, v) :: ns)) (entries r p (ms ++ (k, v') :: ns)) := by
  induction ms with
  | nil =>
      rw [List.nil_append, List.nil_append, entries, entries]
      exact .bind_right _ fun _ _ => h.bind_left _
  | cons m ms ih =>
      rw [List.cons_append, List.cons_append, entries, entries]
      exact .bind_right _ fun _ _ => .bind_right _ fun _ _ => ih.bind_left _

theorem tolerates_table (h : r.Tolerates e) : (table r).Tolerates (InTable e) := by
  rintro p - - ⟨hq, he⟩
  rw [table, table, hq]
  exact (carriedTo_entries (h _ _ _ he) _ _ _).bind_left _

theorem named_of_mem {names : List (String × α)} (hnames : (names.map Prod.fst).Nodup) {s : String}
    {a : α} (hs : (s, a) ∈ names) : named names s = .ok a := by
  have hlookup : names.lookup s = some a := by
    induction names with
    | nil => cases hs
    | cons n names ih =>
        obtain ⟨hfresh, hnames⟩ := List.nodup_cons.mp hnames
        rcases List.mem_cons.mp hs with rfl | hs
        · exact List.lookup_cons_self
        · have hne : s ≠ n.1 := by
            rintro rfl
            exact hfresh (List.mem_map.mpr ⟨_, hs, rfl⟩)
          rw [List.lookup_cons, beq_eq_false_iff_ne.mpr hne]
          exact ih hnames hs
  rw [named, hlookup]

theorem tolerates_constant {names : List (String × α)} (hnames : (names.map Prod.fst).Nodup) :
    (constant names).Tolerates (OfConstant names) := by
  rintro p - - (⟨hs, hs'⟩ | ⟨hs, hs'⟩)
  · rw [constant, constant, named_of_mem hnames hs, named_of_mem hnames hs']
    exact .refl _
  · rw [constant, constant]
    refine .bind_right _ fun q _ => ?_
    show CarriedTo (named names _ >>= _) (named names _ >>= _)
    rw [named_of_mem hnames hs, named_of_mem hnames hs']
    exact .refl _

end Reader

namespace Field

variable {ρ : Type}

theorem answersTo_iff {f : Field ρ} {k : String} :
    f.answersTo k = true ↔ k ∈ f.name :: f.aliases := by
  simp [answersTo]

/-- It does not matter which of two fields is given first: the updates that they read commute on
every draft. -/
def CommutesWith (f g : Field ρ) : Prop :=
  ∀ p v u q w t, f.read p v = .ok u → g.read q w = .ok t → ∀ x, u (t x) = t (u x)

instance : Std.Symm (@CommutesWith ρ) :=
  ⟨fun _ _ h p v u q w t hu ht x => (h q w t p v u ht hu x).symm⟩

theorem commutesWith_of_forall {f g : Field ρ} {α β : Type} {r : Reader α} {r' : Reader β}
    {set : α → ρ → ρ} {set' : β → ρ → ρ} (hf : f.read = r.map set) (hg : g.read = r'.map set')
    (h : ∀ a b x, set a (set' b x) = set' b (set a x)) : f.CommutesWith g := by
  intro p v u q w t hu ht x
  rw [hf] at hu
  rw [hg] at ht
  obtain ⟨a, -, rfl⟩ := Reader.exists_of_map_eq_ok hu
  obtain ⟨b, -, rfl⟩ := Reader.exists_of_map_eq_ok ht
  exact h a b x

@[simp] theorem commutesWith_mk {α β : Type} {r : Reader α} {r' : Reader β} {set : α → ρ → ρ}
    {set' : β → ρ → ρ} {name name' : String} {aliases aliases' : List String}
    {required required' : Bool} (h : ∀ a b x, set a (set' b x) = set' b (set a x)) :
    CommutesWith ⟨name, aliases, required, r.map set⟩ ⟨name', aliases', required', r'.map set'⟩ :=
  commutesWith_of_forall rfl rfl h

end Field

namespace Record

variable {ρ : Type} {fields : List (Field ρ)} {f : Field ρ} {p : Place} {k : String}

/-- No name belongs to two fields, be it a name of its own or another one that the field answers
to. -/
def Unambiguous (fields : List (Field ρ)) : Prop :=
  fields.Pairwise fun f g => ∀ k ∈ f.name :: f.aliases, g.answersTo k = false

instance (fields : List (Field ρ)) : Decidable (Unambiguous fields) :=
  inferInstanceAs (Decidable (fields.Pairwise _))

/-- The fields may be given in any order. -/
def Independent (fields : List (Field ρ)) : Prop := fields.Pairwise Field.CommutesWith

/-- A record is respelled in one member, or in one item if it is an array. `inner` says for the
fields that are not scalars, by their names, how their values are respelled. -/
inductive Respelled (r : Record ρ) (inner : List (String × Respelling)) : Respelling where
  /-- A member gets another name of its field. -/
  | rename {p : Place} {ms ns : List (Key × Json)} {f : Field ρ} {k k' : String} {v : Json}
      (hf : f ∈ r.fields) (hk : f.answersTo k = true) (hk' : f.answersTo k' = true) :
      Respelled r inner p (.object (ms ++ (.ok k, v) :: ns)) (.object (ms ++ (.ok k', v) :: ns))
  /-- A member is added whose name no field has. -/
  | addUnknown {p : Place} {ms ns : List (Key × Json)} {k : String} {v : Json}
      (hk : ∀ f ∈ r.fields, f.answersTo k = false) :
      Respelled r inner p (.object (ms ++ ns)) (.object (ms ++ (.ok k, v) :: ns))
  /-- A member is left out that gives a field its default. -/
  | leaveDefault {p q : Place} {ms ns : List (Key × Json)} {f : Field ρ} {k : String} {v : Json}
      {update : ρ → ρ} (hf : f ∈ r.fields) (hk : f.answersTo k = true)
      (hrequired : f.required = false) (hq : p.enter = .ok q) (hread : f.read q v = .ok update)
      (hdefault : update r.draft = r.draft) :
      Respelled r inner p (.object (ms ++ (.ok k, v) :: ns)) (.object (ms ++ ns))
  /-- The value of a member is respelled. -/
  | member {p q : Place} {ms ns : List (Key × Json)} {f : Field ρ} {e : Respelling} {k : String}
      {v v' : Json} (hf : f ∈ r.fields) (hk : f.answersTo k = true) (he : (f.name, e) ∈ inner)
      (hq : p.enter = .ok q) (h : e q v v') :
      Respelled r inner p (.object (ms ++ (.ok k, v) :: ns)) (.object (ms ++ (.ok k, v') :: ns))
  /-- The item that stands for a field is respelled. -/
  | item {p q : Place} {vs ws : List Json} {f : Field ρ} {e : Respelling} {v v' : Json}
      (hf : r.fields[vs.length]? = some f) (he : (f.name, e) ∈ inner) (hq : p.enter = .ok q)
      (h : e q v v') : Respelled r inner p (.array (vs ++ v :: ws)) (.array (vs ++ v' :: ws))

/-! ## One member -/

theorem find?_of_answersTo (hfields : Unambiguous fields) (hf : f ∈ fields)
    (hk : f.answersTo k = true) : fields.find? (·.answersTo k) = some f := by
  induction fields with
  | nil => cases hf
  | cons g fields ih =>
      obtain ⟨hfirst, hfields⟩ := List.pairwise_cons.mp hfields
      rcases List.mem_cons.mp hf with rfl | hmem
      · exact List.find?_cons_of_pos hk
      · have hg : ¬ g.answersTo k = true := by
          intro hg
          have hf := hfirst f hmem k (Field.answersTo_iff.mp hg)
          rw [hk] at hf
          cases hf
        rw [← ih hfields hmem]
        exact List.find?_cons_of_neg hg

theorem eq_of_name_eq (hfields : Unambiguous fields) {g : Field ρ} (hf : f ∈ fields)
    (hg : g ∈ fields) (h : g.name = f.name) : g = f := by
  have hfound := find?_of_answersTo hfields hf f.answersTo_name
  rw [← h, find?_of_answersTo hfields hg g.answersTo_name] at hfound
  exact Option.some.inj hfound

theorem takeMember_of_answersTo (hfields : Unambiguous fields) (hf : f ∈ fields)
    (hk : f.answersTo k = true) (p : Place) (s : Progress ρ) (v : Json) :
    takeMember fields p s (.ok k) v =
      if f.name ∈ s.given then .error (.duplicateField f.name)
      else f.read p v >>= fun update => .ok ⟨update s.draft, f.name :: s.given⟩ := by
  rw [takeMember_of_read rfl, find?_of_answersTo hfields hf hk]

/-! ## Members in a row -/

theorem given_subset_takeMembers {s t : Progress ρ} {ms : List (Key × Json)}
    (h : takeMembers fields p s ms = .ok t) : s.given ⊆ t.given := by
  induction ms generalizing s with
  | nil =>
      cases h
      exact List.Subset.refl _
  | cons m ms ih =>
      obtain ⟨u, hfirst, hrest⟩ := Reader.exists_of_bind_eq_ok h
      rcases takeMember_cases hfirst with rfl | ⟨g, -, update, -, -, rfl⟩
      · exact ih hrest
      · exact fun name hname => ih hrest (List.mem_cons_of_mem _ hname)

/-- As long as a field is not given, an update of it that changed nothing at the start changes
nothing. -/
theorem update_takeMembers (hindependent : Independent fields) (hf : f ∈ fields) {q : Place}
    {v : Json} {update : ρ → ρ} (hread : f.read q v = .ok update) {s t : Progress ρ}
    {ms : List (Key × Json)} (h : takeMembers fields p s ms = .ok t) (hgiven : f.name ∉ t.given)
    (hs : update s.draft = s.draft) : update t.draft = t.draft := by
  induction ms generalizing s with
  | nil =>
      cases h
      exact hs
  | cons m ms ih =>
      obtain ⟨u, hfirst, hrest⟩ := Reader.exists_of_bind_eq_ok h
      rcases takeMember_cases hfirst with rfl | ⟨g, hg, other, hother, -, rfl⟩
      · exact ih hrest hs
      · have hne : f ≠ g := by
          rintro rfl
          exact hgiven (given_subset_takeMembers hrest List.mem_cons_self)
        have hcommute := hindependent.forall hf hg hne _ _ _ _ _ _ hread hother
        refine ih hrest ?_
        show update (other s.draft) = other s.draft
        rw [hcommute, hs]

variable {name : String} {given later : List String} {draft : ρ} {t : Progress ρ}

theorem takeMember_of_not_given {k : Key} {v : Json}
    (h : takeMember fields p ⟨draft, later ++ name :: given⟩ k v = .ok t) :
    ∃ later', t.given = later' ++ name :: given ∧
      takeMember fields p ⟨draft, later ++ given⟩ k v = .ok ⟨t.draft, later' ++ given⟩ := by
  obtain ⟨key, hkey, -⟩ := Reader.exists_of_bind_eq_ok h
  rw [takeMember_of_read hkey] at h ⊢
  split at h
  next =>
    cases h
    exact ⟨later, rfl, rfl⟩
  next g hg =>
    split at h
    next => cases h
    next hnew =>
      have hnew' : g.name ∉ later ++ given := by
        simp only [List.mem_append, List.mem_cons, not_or] at hnew ⊢
        exact ⟨hnew.1, hnew.2.2⟩
      obtain ⟨update, hupdate, h⟩ := Reader.exists_of_bind_eq_ok h
      cases h
      refine ⟨g.name :: later, rfl, ?_⟩
      rw [if_neg hnew', hupdate]
      rfl

/-- Members that are taken when a field is given are taken when it is not, with the same result. -/
theorem takeMembers_of_not_given {ms : List (Key × Json)}
    (h : takeMembers fields p ⟨draft, later ++ name :: given⟩ ms = .ok t) :
    ∃ later', t.given = later' ++ name :: given ∧
      takeMembers fields p ⟨draft, later ++ given⟩ ms = .ok ⟨t.draft, later' ++ given⟩ := by
  induction ms generalizing draft later with
  | nil =>
      cases h
      exact ⟨later, rfl, rfl⟩
  | cons m ms ih =>
      obtain ⟨⟨draft', given'⟩, hfirst, hrest⟩ := Reader.exists_of_bind_eq_ok h
      obtain ⟨later', rfl, hfirst'⟩ := takeMember_of_not_given hfirst
      obtain ⟨last, hlast, hrest'⟩ := ih hrest
      refine ⟨last, hlast, ?_⟩
      rw [takeMembers, hfirst']
      exact hrest'

/-! ## Records -/

variable {r : Record ρ}

/-- Members that are taken in the same way from every state on give the same record. -/
theorem carriedTo_ofMembers {ms ms' : List (Key × Json)}
    (h : CarriedTo (takeMembers r.fields p ⟨r.draft, []⟩ ms)
      (takeMembers r.fields p ⟨r.draft, []⟩ ms')) :
    CarriedTo (r.ofMembers p ms) (r.ofMembers p ms') :=
  h.bind_left _

/-- The members around one that is taken differently. -/
theorem carriedTo_takeMembers {m m' : Key × Json}
    (h : ∀ s, CarriedTo (takeMember fields p s m.1 m.2) (takeMember fields p s m'.1 m'.2))
    (s : Progress ρ) (ms ns : List (Key × Json)) :
    CarriedTo (takeMembers fields p s (ms ++ m :: ns))
      (takeMembers fields p s (ms ++ m' :: ns)) := by
  rw [takeMembers_append, takeMembers_append]
  exact .bind_right _ fun t _ => (h t).bind_left _

/-- A default need not be given. -/
theorem ofMembers_of_default (hfields : Unambiguous r.fields) (hindependent : Independent r.fields)
    (hf : f ∈ r.fields) (hk : f.answersTo k = true) (hrequired : f.required = false) {v : Json}
    {update : ρ → ρ} (hread : f.read p v = .ok update) (hdefault : update r.draft = r.draft)
    {ms ns : List (Key × Json)} :
    CarriedTo (r.ofMembers p (ms ++ (.ok k, v) :: ns)) (r.ofMembers p (ms ++ ns)) := by
  intro x h
  obtain ⟨given, hx, hmissing⟩ := ofMembers_eq_ok_iff.mp h
  rw [takeMembers_append] at hx
  obtain ⟨⟨draft, before⟩, hbefore, hx⟩ := Reader.exists_of_bind_eq_ok hx
  rw [takeMembers, takeMember_of_answersTo hfields hf hk, hread] at hx
  obtain ⟨s, hs, hx⟩ := Reader.exists_of_bind_eq_ok hx
  split at hs
  next => cases hs
  next hnew =>
    cases hs
    have hdraft : update draft = draft :=
      update_takeMembers hindependent hf hread hbefore hnew hdefault
    rw [hdraft] at hx
    obtain ⟨later, rfl, hx⟩ := takeMembers_of_not_given (show
      takeMembers r.fields p ⟨draft, [] ++ f.name :: before⟩ ns = .ok ⟨x, given⟩ from hx)
    refine ofMembers_eq_ok_iff.mpr ⟨later ++ before, ?_, ?_⟩
    · rw [takeMembers_append, hbefore]
      exact hx
    · rw [missing?_eq_none_iff] at hmissing ⊢
      intro g hg hgrequired
      have hne : g.name ≠ f.name := by
        intro hname
        rw [eq_of_name_eq hfields hf hg hname, hrequired] at hgrequired
        cases hgrequired
      have hgiven := hmissing g hg hgrequired
      simp only [List.mem_append, List.mem_cons, hne, false_or] at hgiven ⊢
      exact hgiven

theorem carriedTo_takeItems {whole : String} {v v' : Json} {vs ws : List Json}
    (hf : fields[vs.length]? = some f) (h : CarriedTo (f.read p v) (f.read p v')) (n : Nat)
    (x : ρ) :
    CarriedTo (takeItems whole p n fields x (vs ++ v :: ws))
      (takeItems whole p n fields x (vs ++ v' :: ws)) := by
  induction vs generalizing fields n x with
  | nil =>
      cases fields with
      | nil => cases hf
      | cons g fields =>
          obtain rfl : g = f := Option.some.inj hf
          rw [List.nil_append, List.nil_append, takeItems, takeItems]
          exact h.bind_left _
  | cons w vs ih =>
      cases fields with
      | nil => cases hf
      | cons g fields =>
          rw [List.cons_append, List.cons_append, takeItems, takeItems]
          exact .bind_right _ fun _ _ => ih hf _ _

/-- Each of some respellings is tolerated by the field of its name, which is given by its index. -/
inductive Covers (fields : List (Field ρ)) : List (String × Respelling) → Prop where
  | nil : Covers fields []
  | cons (i : Nat) {f : Field ρ} {name : String} {e : Respelling}
      {inner : List (String × Respelling)} (hf : fields[i]? = some f) (hname : f.name = name)
      (he : f.read.Tolerates e) (hinner : Covers fields inner) : Covers fields ((name, e) :: inner)

theorem Covers.exists_of_mem {inner : List (String × Respelling)} (h : Covers fields inner)
    {e : String × Respelling} (he : e ∈ inner) :
    ∃ f ∈ fields, f.name = e.1 ∧ f.read.Tolerates e.2 := by
  induction h with
  | nil => cases he
  | cons i hf hname htolerates _ ih =>
      rcases List.mem_cons.mp he with rfl | he
      · exact ⟨_, List.mem_of_getElem? hf, hname, htolerates⟩
      · exact ih he

/-- A record tolerates every respelling, if its fields tolerate those of their values. -/
theorem tolerates_read {inner : List (String × Respelling)} (hfields : Unambiguous r.fields)
    (hindependent : Independent r.fields) (hinner : Covers r.fields inner) :
    r.read.Tolerates (r.Respelled inner) := by
  have htolerates : ∀ f ∈ r.fields, ∀ e, (f.name, e) ∈ inner → f.read.Tolerates e := by
    intro f hf e he
    obtain ⟨g, hg, hname, htolerates⟩ := hinner.exists_of_mem he
    rwa [eq_of_name_eq hfields hf hg hname] at htolerates
  intro p v v' h
  cases h with
  | @rename _ ms ns f k k' v hf hk hk' =>
      refine .bind_right _ fun q _ => carriedTo_ofMembers (carriedTo_takeMembers ?_ _ ms ns)
      intro s
      rw [takeMember_of_answersTo hfields hf hk, takeMember_of_answersTo hfields hf hk']
      exact .refl _
  | @addUnknown _ ms ns k v hk =>
      refine .bind_right _ fun q _ => ?_
      rw [ofMembers_of_unknown hk]
      exact .refl _
  | leaveDefault hf hk hrequired hq hread hdefault =>
      rw [read, read, hq]
      exact ofMembers_of_default hfields hindependent hf hk hrequired hread hdefault
  | @member _ q ms ns f e k v v' hf hk he hq h =>
      rw [read, read, hq]
      refine carriedTo_ofMembers (carriedTo_takeMembers ?_ _ ms ns)
      intro s
      rw [takeMember_of_answersTo hfields hf hk, takeMember_of_answersTo hfields hf hk]
      split
      next => exact .refl _
      next => exact (htolerates f hf e he _ _ _ h).bind_left _
  | item hf he hq h =>
      rw [read, read, hq]
      exact carriedTo_takeItems hf (htolerates _ (List.mem_of_getElem? hf) _ he _ _ _ h) _ _

end Record

end StageRelay
