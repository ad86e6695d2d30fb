import StageRelay.Proofs.Schema.Respelling

/-!
# The order of members

What is read of the members of a map does not depend on their order, if the fields of the record may
be given in any order. For this two states of a record under way count as the same if the same
fields have been given, in whatever order. Members that no field answers to may stand anywhere.

In an array the items are the fields in their declared order.
-/

namespace StageRelay

namespace Record

variable {ρ : Type} {fields : List (Field ρ)} {p : Place}

def Progress.Same (s t : Progress ρ) : Prop :=
  s.draft = t.draft ∧ ∀ name, name ∈ s.given ↔ name ∈ t.given

variable {s s' t u : Progress ρ}

theorem Progress.Same.refl (s : Progress ρ) : s.Same s := ⟨rfl, fun _ => Iff.rfl⟩

theorem Progress.Same.trans (h : s.Same t) (h' : t.Same u) : s.Same u :=
  ⟨h.1.trans h'.1, fun name => (h.2 name).trans (h'.2 name)⟩

/-! ## Members in another order -/

theorem takeMember_same {k : Key} {v : Json} (hs : s.Same s')
    (h : takeMember fields p s k v = .ok t) :
    ∃ t', takeMember fields p s' k v = .ok t' ∧ t.Same t' := by
  obtain ⟨key, rfl, ⟨hfind, rfl⟩ | ⟨f, update, hf, hread, hnew, rfl⟩⟩ :=
    takeMember_eq_ok_iff.mp h
  · exact ⟨s', takeMember_eq_ok_iff.mpr ⟨key, rfl, .inl ⟨hfind, rfl⟩⟩, hs⟩
  · refine ⟨⟨update s'.draft, f.name :: s'.given⟩, takeMember_eq_ok_iff.mpr
      ⟨key, rfl, .inr ⟨f, update, hf, hread, mt (hs.2 _).mpr hnew, rfl⟩⟩,
      congrArg update hs.1, fun name => ?_⟩
    simp only [List.mem_cons, hs.2]

/-- Two members next to one another may change places. -/
theorem takeMember_swap (hindependent : Independent fields) {k k' : Key} {v v' : Json}
    (h : takeMember fields p s k v = .ok u) (h' : takeMember fields p u k' v' = .ok t) :
    ∃ w, takeMember fields p s k' v' = .ok w ∧ ∃ t', takeMember fields p w k v = .ok t' ∧
      t.Same t' := by
  obtain ⟨key, rfl, ⟨hfind, rfl⟩ | ⟨f, update, hf, hread, hnew, rfl⟩⟩ :=
    takeMember_eq_ok_iff.mp h
  · exact ⟨t, h', t, takeMember_eq_ok_iff.mpr ⟨key, rfl, .inl ⟨hfind, rfl⟩⟩, .refl t⟩
  obtain ⟨key', rfl, ⟨hfind, rfl⟩ | ⟨g, update', hg, hread', hnew', rfl⟩⟩ :=
    takeMember_eq_ok_iff.mp h'
  · exact ⟨s, takeMember_eq_ok_iff.mpr ⟨key', rfl, .inl ⟨hfind, rfl⟩⟩, _, h, .refl _⟩
  obtain ⟨hname, hnew'⟩ := not_or.mp (mt List.mem_cons.mpr hnew')
  have hfg : f ≠ g := fun heq => hname (congrArg Field.name heq).symm
  have hcommute := hindependent.forall (List.mem_of_find?_eq_some hf)
    (List.mem_of_find?_eq_some hg) hfg _ _ _ _ _ _ hread hread' s.draft
  have hfirst : takeMember fields p s (.ok key') v' =
      .ok ⟨update' s.draft, g.name :: s.given⟩ :=
    takeMember_eq_ok_iff.mpr ⟨key', rfl, .inr ⟨g, update', hg, hread', hnew', rfl⟩⟩
  have hstill : f.name ∉ g.name :: s.given :=
    mt List.mem_cons.mp (not_or.mpr ⟨Ne.symm hname, hnew⟩)
  refine ⟨_, hfirst, _, takeMember_eq_ok_iff.mpr
    ⟨key, rfl, .inr ⟨f, update, hf, hread, hstill, rfl⟩⟩, hcommute.symm, fun name => ?_⟩
  simp only [List.mem_cons]
  exact or_left_comm

theorem takeMembers_same {ms : List (Key × Json)} (hs : s.Same s')
    (h : takeMembers fields p s ms = .ok t) :
    ∃ t', takeMembers fields p s' ms = .ok t' ∧ t.Same t' := by
  induction ms generalizing s s' with
  | nil =>
      cases h
      exact ⟨s', rfl, hs⟩
  | cons m ms ih =>
      obtain ⟨u, hfirst, hrest⟩ := Reader.exists_of_bind_eq_ok h
      obtain ⟨u', hfirst', hu⟩ := takeMember_same hs hfirst
      obtain ⟨t', hrest', ht⟩ := ih hu hrest
      refine ⟨t', ?_, ht⟩
      rw [takeMembers, hfirst']
      exact hrest'

theorem takeMembers_perm (hindependent : Independent fields) {ms ns : List (Key × Json)}
    (hperm : ms.Perm ns) (h : takeMembers fields p s ms = .ok t) :
    ∃ t', takeMembers fields p s ns = .ok t' ∧ t.Same t' := by
  induction hperm generalizing s t with
  | nil => exact ⟨t, h, .refl t⟩
  | cons m _ ih =>
      obtain ⟨u, hfirst, hrest⟩ := Reader.exists_of_bind_eq_ok h
      obtain ⟨t', hrest', ht⟩ := ih hrest
      refine ⟨t', ?_, ht⟩
      rw [takeMembers, hfirst]
      exact hrest'
  | swap m m' ms =>
      obtain ⟨u, hfirst, h⟩ := Reader.exists_of_bind_eq_ok h
      obtain ⟨w, hsecond, hrest⟩ := Reader.exists_of_bind_eq_ok h
      obtain ⟨u', hfirst', w', hsecond', hsame⟩ := takeMember_swap hindependent hfirst hsecond
      obtain ⟨t', hrest', ht⟩ := takeMembers_same hsame hrest
      refine ⟨t', ?_, ht⟩
      rw [takeMembers, hfirst']
      show (takeMember fields p u' m'.1 m'.2 >>= fun v => takeMembers fields p v ms) = _
      rw [hsecond']
      exact hrest'
  | trans _ _ ih ih' =>
      obtain ⟨u, hu, hsame⟩ := ih h
      obtain ⟨t', ht', hsame'⟩ := ih' hu
      exact ⟨t', ht', hsame.trans hsame'⟩

variable {r : Record ρ}

/-- The members of a map give a record in whatever order they stand, since the updates that its
fields read may be made in any order. -/
theorem ofMembers_perm (hindependent : Independent r.fields) {ms ns : List (Key × Json)}
    (hperm : ms.Perm ns) {x : ρ} (h : r.ofMembers p ms = .ok x) : r.ofMembers p ns = .ok x := by
  obtain ⟨given, htake, hmissing⟩ := ofMembers_eq_ok_iff.mp h
  obtain ⟨⟨draft, given'⟩, htake', rfl, hgiven⟩ := takeMembers_perm hindependent hperm htake
  refine ofMembers_eq_ok_iff.mpr ⟨given', htake', ?_⟩
  rw [missing?_eq_none_iff] at hmissing ⊢
  exact fun f hf hrequired => (hgiven f.name).mp (hmissing f hf hrequired)

/-- Members that no field answers to may be left out. -/
theorem ofMembers_append_of_unknown {ms extra : List (Key × Json)}
    (hextra : ∀ m ∈ extra, ∃ k, m.1 = .ok k ∧ ∀ f ∈ r.fields, f.answersTo k = false) :
    r.ofMembers p (ms ++ extra) = r.ofMembers p ms := by
  induction extra with
  | nil => rw [List.append_nil]
  | cons m extra ih =>
      obtain ⟨⟨k, hk, hunknown⟩, hrest⟩ := List.forall_mem_cons.mp hextra
      obtain ⟨key, v⟩ := m
      obtain rfl : key = .ok k := hk
      rw [ofMembers_of_unknown hunknown]
      exact ih hrest

/-! ## Items -/

theorem Fills.length_le {ms : List (String × Json)} {update : ρ → ρ} (h : Fills fields ms update) :
    ms.length ≤ fields.length := by
  induction h with
  | nil => exact Nat.le_refl 0
  | give _ _ ih => exact Nat.succ_le_succ ih
  | leave _ _ ih => exact Nat.le_succ_of_le ih

/-- The values of all fields in their declared order are read as the record. -/
theorem takeItems_of_fills {ms : List (String × Json)} {update : ρ → ρ}
    (h : Fills fields ms update) (hrequired : ∀ f ∈ fields, f.required = true)
    (hp : p.HasRoom (Json.depthOfMembers (members ms))) (whole : String) (n : Nat) (x : ρ) :
    takeItems whole p n fields x (ms.map Prod.snd) = .ok (update x) := by
  induction h generalizing n x with
  | nil => rfl
  | @give f v update fields ms others hread h ih =>
      obtain ⟨-, hrequired⟩ := List.forall_mem_cons.mp hrequired
      have hfirst : f.read p v = .ok update := hread p (hp.mono (Nat.le_max_left _ _))
      have hrest := ih hrequired (hp.mono (Nat.le_max_right _ _)) (n + 1) (update x)
      show takeItems whole p n (f :: fields) x (v :: ms.map Prod.snd) = _
      rw [takeItems, hfirst]
      exact hrest
  | @leave f fields ms others hf =>
      rw [hrequired f List.mem_cons_self] at hf
      cases hf

end Record

end StageRelay
