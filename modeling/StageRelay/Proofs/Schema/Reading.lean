import StageRelay.Schema.Reader
import StageRelay.Schema.Written

/-!
# What readers give

`Reader.Reads r v a` says that a reader takes a value for `a` at every place where the value is
not nested too deeply. `Reader.Ensures r P` says that whatever a reader gives has a property, be it
written as it may. Both go from the parts of a value to the whole, so each kind of reader has one
lemma for each.
-/

namespace StageRelay

namespace Place

/-- A value of a depth may stand at the place. Where a format sets no limit to depth this says
nothing. -/
def HasRoom (p : Place) (depth : Nat) : Prop :=
  ∀ limit, p.format.depthLimit = some limit → p.depth + depth < limit

variable {p q : Place} {m n : Nat}

theorem HasRoom.mono (h : p.HasRoom n) (hle : m ≤ n) : p.HasRoom m :=
  fun limit hlimit => Nat.lt_of_le_of_lt (Nat.add_le_add_left hle _) (h limit hlimit)

theorem hasRoom_of_unlimited (h : p.format.depthLimit = none) : p.HasRoom n := by
  intro limit hlimit
  rw [h] at hlimit
  cases hlimit

/-- With room for a container there is a place inside it, with room for what it holds. -/
theorem HasRoom.enter (h : p.HasRoom (n + 1)) : ∃ q, p.enter = .ok q ∧ q.HasRoom n := by
  refine ⟨⟨p.format, p.depth + 1⟩, ?_, ?_⟩
  · rw [Place.enter]
    cases hlimit : p.format.depthLimit with
    | none => rfl
    | some limit =>
        have hlt := h limit hlimit
        have hopen : ¬ limit ≤ p.depth + 1 := by omega
        simp only [hopen, if_false]
  · intro limit hlimit
    have hlt := h limit hlimit
    show p.depth + 1 + n < limit
    omega

theorem hasRoom_enter_iff (hq : p.enter = .ok q) : q.HasRoom n ↔ p.HasRoom (n + 1) := by
  have hinside : q = ⟨p.format, p.depth + 1⟩ := by
    rw [Place.enter] at hq
    split at hq
    next =>
      split at hq
      next => cases hq
      next => exact (Except.ok.inj hq).symm
    next => exact (Except.ok.inj hq).symm
  subst hinside
  refine forall_congr' fun limit => forall_congr' fun _ => ?_
  show p.depth + 1 + n < limit ↔ p.depth + (n + 1) < limit
  omega

theorem HasRoom.max (hm : p.HasRoom m) (hn : p.HasRoom n) : p.HasRoom (max m n) := by
  rcases Nat.le_total m n with h | h
  · rwa [Nat.max_eq_right h]
  · rwa [Nat.max_eq_left h]

/-- A place inside a container is not too deep for a scalar. -/
theorem hasRoom_of_enter (hq : p.enter = .ok q) : q.HasRoom 0 := by
  rw [hasRoom_enter_iff hq]
  intro limit hlimit
  rw [enter, hlimit] at hq
  dsimp only at hq
  split at hq
  next => cases hq
  next h => exact Nat.lt_of_not_le h

end Place

namespace Json

theorem depth_le_of_mem_items {v : Json} {vs : List Json} (h : v ∈ vs) :
    v.depth ≤ depthOfItems vs :=
  Nat.le_of_lt_succ ((depthOfItems_lt_iff (Nat.succ_pos _)).mp (Nat.lt_succ_self _) v h)

theorem depth_le_of_mem_members {k : Key} {v : Json} {ms : List (Key × Json)} (h : (k, v) ∈ ms) :
    v.depth ≤ depthOfMembers ms :=
  Nat.le_of_lt_succ ((depthOfMembers_lt_iff (Nat.succ_pos _)).mp (Nat.lt_succ_self _) (k, v) h)

end Json

namespace Reader

variable {α β γ : Type} {r : Reader α}

/-! ## Values that are read -/

/-- The reader takes the value for `a` wherever there is room for the value. Neither the format nor
the depth of the place matters otherwise. -/
def Reads (r : Reader α) (v : Json) (a : α) : Prop :=
  ∀ p : Place, p.HasRoom v.depth → r p v = .ok a

theorem Reads.map {v : Json} {a : α} (h : r.Reads v a) (f : α → β) :
    (r.map f).Reads v (f a) := by
  intro p hp
  rw [Reader.map, h p hp]
  rfl

theorem reads_text (s : String) : text.Reads (.string s) s := fun _ _ => rfl

theorem reads_path (s : String) : path.Reads (.string s) s := fun _ _ => rfl

theorem reads_boolean (b : Bool) : boolean.Reads (.bool b) b := fun _ _ => rfl

theorem reads_natural {bound n : Nat} (name : String) (h : n < bound) :
    (natural name bound).Reads (.nat n) n := by
  intro p _
  have hrange : (0 : Int) ≤ n ∧ (n : Int) < bound := ⟨Int.natCast_nonneg n, Int.ofNat_lt.mpr h⟩
  simp only [natural, Json.nat, hrange, and_self, if_true]
  rfl

theorem reads_word (w : UInt16) : word.Reads (.nat w.toNat) w := by
  have hword := (reads_natural "u16" w.toNat_lt).map Nat.toUInt16
  rwa [show w.toNat.toUInt16 = w from UInt16.ofNat_toNat] at hword

/-- An optional value, if null does not stand for a value. -/
theorem reads_optional {f : α → Json} (o : Option α) (hnull : ∀ a, f a ≠ .null)
    (h : ∀ a, o = some a → r.Reads (f a) a) : (optional r).Reads (Json.optional f o) o := by
  intro p hp
  cases o with
  | none => rfl
  | some a =>
      have hread : r p (f a) = .ok a := h a rfl p hp
      rw [Json.optional, optional, hread]
      · rfl
      · exact hnull a

theorem items_map {f : β → Json} {g : β → α} {p : Place} {bs : List β}
    (h : ∀ b ∈ bs, r p (f b) = .ok (g b)) : items r p (bs.map f) = .ok (bs.map g) := by
  induction bs with
  | nil => rfl
  | cons b bs ih =>
      obtain ⟨hb, hbs⟩ := List.forall_mem_cons.mp h
      rw [List.map_cons, items, hb, ih hbs]
      rfl

theorem reads_sequence {f : β → Json} {g : β → α} (bs : List β)
    (h : ∀ b ∈ bs, r.Reads (f b) (g b)) : (sequence r).Reads (.array (bs.map f)) (bs.map g) := by
  intro p hp
  obtain ⟨q, hq, hroom⟩ := hp.enter
  have hitems : items r q (bs.map f) = .ok (bs.map g) := by
    apply items_map
    intro b hb
    exact h b hb q (hroom.mono (Json.depth_le_of_mem_items (List.mem_map_of_mem hb)))
  rw [sequence, hq]
  exact hitems

/-- A list whose items are read as themselves. -/
theorem reads_list {f : α → Json} (as : List α) (h : ∀ a ∈ as, r.Reads (f a) a) :
    (sequence r).Reads (.array (as.map f)) as := by
  have hlist := reads_sequence as h
  rwa [List.map_id'] at hlist

theorem entries_map {f : β → Json} {g : String → β → α} {p : Place} {es : List (String × β)}
    (h : ∀ e ∈ es, r p (f e.2) = .ok (g e.1 e.2)) :
    entries r p (es.map fun e => (.ok e.1, f e.2)) = .ok (es.map fun e => (e.1, g e.1 e.2)) := by
  induction es with
  | nil => rfl
  | cons e es ih =>
      obtain ⟨he, hes⟩ := List.forall_mem_cons.mp h
      rw [List.map_cons, entries, he, ih hes]
      rfl

theorem reads_constant {names : List (String × α)} {name : String} {a : α}
    (h : names.lookup name = some a) : (constant names).Reads (.string name) a := by
  intro p _
  rw [constant, named, h]

/-- A map with the same keys and each value read as a function of its entry. -/
theorem reads_table {f : β → Json} {g : String → β → α} (m : SortedMap String β)
    (h : ∀ e ∈ m.toList, r.Reads (f e.2) (g e.1 e.2)) :
    (table r).Reads (m.toJson f) (m.mapEntries g) := by
  have hjson : m.toJson f = .object (m.toList.map fun e => (.ok e.1, f e.2)) := by
    rw [SortedMap.toJson, Json.record, List.map_map]
    rfl
  rw [hjson]
  intro p hp
  obtain ⟨q, hq, hroom⟩ := hp.enter
  have hentries : entries r q (m.toList.map fun e => (.ok e.1, f e.2)) =
      .ok (m.mapEntries g).toList := by
    apply entries_map
    intro e he
    have hmem : ((.ok e.1 : Key), f e.2) ∈ m.toList.map fun e => ((.ok e.1 : Key), f e.2) :=
      List.mem_map_of_mem he
    exact h e he q (hroom.mono (Json.depth_le_of_mem_members hmem))
  rw [table, hq]
  show (entries r q _ >>= fun es => pure (SortedMap.ofList es)) = _
  rw [hentries]
  exact congrArg Except.ok (SortedMap.ofList_toList _)

/-- A map whose values are read as themselves. -/
theorem reads_map {f : α → Json} (m : SortedMap String α)
    (h : ∀ e ∈ m.toList, r.Reads (f e.2) e.2) : (table r).Reads (m.toJson f) m := by
  have hmap : m.mapEntries (fun _ a => a) = m := by
    apply SortedMap.ext_entries
    exact List.map_id' m.entries
  have htable : (table r).Reads (m.toJson f) (m.mapEntries fun _ a => a) := reads_table m h
  rwa [hmap] at htable

/-! ## Properties of what is read -/

def Ensures (r : Reader α) (P : α → Prop) : Prop := ∀ p v a, r p v = .ok a → P a

theorem exists_of_bind_eq_ok {x : Except ReadError α} {f : α → Except ReadError β} {b : β}
    (h : (x >>= f) = .ok b) : ∃ a, x = .ok a ∧ f a = .ok b := by
  cases x with
  | error e => cases h
  | ok a => exact ⟨a, rfl, h⟩

theorem exists_of_map_eq_ok {x : Except ReadError α} {f : α → β} {b : β}
    (h : x.map f = .ok b) : ∃ a, x = .ok a ∧ f a = b := by
  cases x with
  | error e => cases h
  | ok a => exact ⟨a, rfl, Except.ok.inj h⟩

theorem mismatch_ne_ok (v : Json) (expected : String) (a : α) :
    mismatch v expected ≠ .ok a := by
  intro h
  obtain ⟨found, -, herror⟩ := exists_of_bind_eq_ok h
  cases herror

variable {P : α → Prop} {Q : β → Prop}

theorem ensures_true (r : Reader α) : r.Ensures fun _ => True := fun _ _ _ _ => trivial

theorem Ensures.map (h : r.Ensures P) {f : α → β} (hf : ∀ a, P a → Q (f a)) :
    (r.map f).Ensures Q := by
  intro p v b hb
  obtain ⟨a, ha, rfl⟩ := exists_of_map_eq_ok hb
  exact hf a (h p v a ha)

theorem ensures_natural (name : String) (bound : Nat) :
    (natural name bound).Ensures (· < bound) := by
  intro p v n hn
  unfold natural at hn
  split at hn
  next i =>
    split at hn
    next hrange =>
      cases hn
      omega
    next => cases hn
  next => exact absurd hn (mismatch_ne_ok _ _ _)

theorem ensures_optional (h : r.Ensures P) :
    (optional r).Ensures fun o => ∀ a, o = some a → P a := by
  intro p v o ho a hoa
  unfold optional at ho
  split at ho
  next =>
    cases ho
    cases hoa
  next =>
    obtain ⟨b, hb, rfl⟩ := exists_of_map_eq_ok ho
    cases hoa
    exact h _ _ a hb

theorem forall_mem_entries (h : r.Ensures P) {p : Place} {ms : List (Key × Json)}
    {es : List (String × α)} (hes : entries r p ms = .ok es) : ∀ e ∈ es, P e.2 := by
  induction ms generalizing es with
  | nil =>
      cases hes
      exact List.forall_mem_nil _
  | cons m ms ih =>
      obtain ⟨k, hk, hes⟩ := exists_of_bind_eq_ok hes
      obtain ⟨a, ha, hes⟩ := exists_of_bind_eq_ok hes
      obtain ⟨rest, hrest, hes⟩ := exists_of_bind_eq_ok hes
      cases hes
      exact List.forall_mem_cons.mpr ⟨h _ _ a ha, ih hrest⟩

theorem ensures_table (h : r.Ensures P) :
    (table r).Ensures fun m => ∀ e ∈ m.toList, P e.2 := by
  intro p v m hm e he
  unfold table at hm
  split at hm
  next =>
    obtain ⟨q, -, hm⟩ := exists_of_bind_eq_ok hm
    obtain ⟨es, hes, hm⟩ := exists_of_bind_eq_ok hm
    cases hm
    exact forall_mem_entries h hes e (SortedMap.mem_of_mem_ofList he)
  next => exact absurd hm (mismatch_ne_ok _ _ _)

/-! ## What was read -/

variable {p : Place} {v : Json}

theorem text_eq_ok_iff {s : String} : text p v = .ok s ↔ v = .string s := by
  refine ⟨fun h => ?_, fun h => h ▸ rfl⟩
  unfold text at h
  split at h
  next => rw [Except.ok.inj h]
  next => exact absurd h (mismatch_ne_ok _ _ _)

theorem names_of_entries {ms : List (Key × Json)} {es : List (String × α)}
    (h : entries r p ms = .ok es) : ms.map Prod.fst = es.map fun e => .ok e.1 := by
  induction ms generalizing es with
  | nil =>
      cases h
      rfl
  | cons m ms ih =>
      obtain ⟨key, v⟩ := m
      obtain ⟨k, hk, h⟩ := exists_of_bind_eq_ok h
      obtain ⟨a, -, h⟩ := exists_of_bind_eq_ok h
      obtain ⟨rest, hrest, h⟩ := exists_of_bind_eq_ok h
      cases h
      cases key with
      | error fault => cases hk
      | ok name =>
          cases hk
          rw [List.map_cons, ih hrest]
          rfl

/-- The keys of a map that is read are the names of the members. -/
theorem exists_of_table_eq_ok {m : SortedMap String α} (h : table r p v = .ok m) :
    ∃ ms, v = .object ms ∧ ∀ k, k ∈ m.keys ↔ ∃ w, (.ok k, w) ∈ ms := by
  unfold table at h
  split at h
  next ms =>
    obtain ⟨q, -, h⟩ := exists_of_bind_eq_ok h
    obtain ⟨es, hes, h⟩ := exists_of_bind_eq_ok h
    cases h
    refine ⟨ms, rfl, fun k => ?_⟩
    have hnames : (.ok k : Key) ∈ ms.map Prod.fst ↔ k ∈ es.map Prod.fst := by
      rw [names_of_entries hes]
      simp
    rw [SortedMap.mem_keys_ofList_iff, ← hnames]
    simp
  next => exact absurd h (mismatch_ne_ok _ _ _)

end Reader

end StageRelay
