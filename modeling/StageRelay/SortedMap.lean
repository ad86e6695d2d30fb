/-!
# Maps kept in key order

A `SortedMap` is a finite map whose entries stand in strictly ascending order of
their keys. The order is part of the type, so two maps with the same look-ups
are equal and their entries are listed in one way only.

`insert` overwrites; `ofList` inserts from the left, so the last entry for a key
counts.
-/

namespace StageRelay

/-- A finite map with its entries in strictly ascending order of keys. Two maps with the
same entries are therefore equal. -/
structure SortedMap (κ ν : Type) [Ord κ] where
  entries : List (κ × ν)
  ascending : (entries.map Prod.fst).Pairwise (fun a b => compare a b = .lt)
deriving DecidableEq

namespace SortedMap

variable {κ ν μ : Type} [Ord κ]

/-- The entries with `k` bound to `v`, placed by the order of the keys. An entry that
`k` had before is replaced where it stands. -/
def insertEntry (k : κ) (v : ν) : List (κ × ν) → List (κ × ν)
  | [] => [(k, v)]
  | (a, x) :: rest =>
    match compare k a with
    | .lt => (k, v) :: (a, x) :: rest
    | .eq => (k, v) :: rest
    | .gt => (a, x) :: insertEntry k v rest

/-- The value bound to a key in a list of entries. The first entry of the key counts, as
in the list of a map there is only one. -/
def find? [BEq κ] (k : κ) : List (κ × ν) → Option ν
  | [] => none
  | (a, x) :: rest => if a == k then some x else find? k rest

theorem mem_keys_insertEntry {k a : κ} {v : ν} {l : List (κ × ν)}
    (h : a ∈ (insertEntry k v l).map Prod.fst) : a = k ∨ a ∈ l.map Prod.fst := by
  induction l with
  | nil => simpa [insertEntry] using h
  | cons e rest ih =>
    obtain ⟨b, x⟩ := e
    rw [insertEntry] at h
    cases hc : compare k b with
    | lt => simp only [hc, List.map_cons, List.mem_cons] at h ⊢; exact h
    | eq =>
      simp only [hc, List.map_cons, List.mem_cons] at h ⊢
      exact h.imp_right .inr
    | gt =>
      simp only [hc, List.map_cons, List.mem_cons] at h ⊢
      rcases h with h | h
      · exact .inr (.inl h)
      · exact (ih h).imp_right .inr

theorem ascending_insertEntry [Std.TransOrd κ] [Std.LawfulEqOrd κ] (k : κ) (v : ν)
    {l : List (κ × ν)} (h : (l.map Prod.fst).Pairwise (fun a b => compare a b = .lt)) :
    ((insertEntry k v l).map Prod.fst).Pairwise (fun a b => compare a b = .lt) := by
  induction l with
  | nil => simp [insertEntry]
  | cons e rest ih =>
    obtain ⟨b, x⟩ := e
    rw [List.map_cons, List.pairwise_cons] at h
    rw [insertEntry]
    cases hc : compare k b with
    | lt =>
      simp only [List.map_cons, List.pairwise_cons, List.mem_cons]
      refine ⟨?_, h⟩
      rintro a (rfl | ha)
      · exact hc
      · exact Std.TransCmp.lt_trans hc (h.1 a ha)
    | eq =>
      obtain rfl := Std.LawfulEqCmp.eq_of_compare hc
      simpa only [List.map_cons, List.pairwise_cons] using h
    | gt =>
      simp only [List.map_cons, List.pairwise_cons]
      refine ⟨fun a ha => ?_, ih h.2⟩
      rcases mem_keys_insertEntry ha with rfl | ha
      · exact Std.OrientedCmp.lt_of_gt hc
      · exact h.1 a ha

def empty : SortedMap κ ν := ⟨[], List.Pairwise.nil⟩

instance : Inhabited (SortedMap κ ν) := ⟨empty⟩

def insert [Std.TransOrd κ] [Std.LawfulEqOrd κ] (m : SortedMap κ ν) (k : κ) (v : ν) :
    SortedMap κ ν :=
  ⟨insertEntry k v m.entries, ascending_insertEntry k v m.ascending⟩

def get? [BEq κ] (m : SortedMap κ ν) (k : κ) : Option ν := find? k m.entries

def contains [BEq κ] (m : SortedMap κ ν) (k : κ) : Bool := (m.get? k).isSome

def toList (m : SortedMap κ ν) : List (κ × ν) := m.entries

def keys (m : SortedMap κ ν) : List κ := m.entries.map Prod.fst

def size (m : SortedMap κ ν) : Nat := m.entries.length

def isEmpty (m : SortedMap κ ν) : Bool := m.entries.isEmpty

/-- The map that binds each key to the value of its last entry. -/
def ofList [Std.TransOrd κ] [Std.LawfulEqOrd κ] (l : List (κ × ν)) : SortedMap κ ν :=
  l.foldl (fun m e => m.insert e.1 e.2) empty

def mapEntries (f : κ → ν → μ) (m : SortedMap κ ν) : SortedMap κ μ :=
  ⟨m.entries.map fun e => (e.1, f e.1 e.2), by
    have h := m.ascending
    simpa [List.map_map, Function.comp_def] using h⟩

@[ext] theorem ext_entries {m n : SortedMap κ ν} (h : m.entries = n.entries) : m = n := by
  cases m; cases n; simp_all

@[simp] theorem entries_empty : (empty : SortedMap κ ν).entries = [] := rfl

@[simp] theorem keys_mapEntries (f : κ → ν → μ) (m : SortedMap κ ν) :
    (m.mapEntries f).keys = m.keys := by
  simp [keys, mapEntries, List.map_map, Function.comp_def]

variable [BEq κ]

@[simp] theorem get?_empty (k : κ) : (empty : SortedMap κ ν).get? k = none := rfl

variable [LawfulBEq κ]

theorem get?_insert_self [Std.TransOrd κ] [Std.LawfulEqOrd κ] (m : SortedMap κ ν) (k : κ)
    (v : ν) : (m.insert k v).get? k = some v := by
  show find? k (insertEntry k v m.entries) = some v
  induction m.entries with
  | nil => simp [insertEntry, find?]
  | cons e rest ih =>
    obtain ⟨a, x⟩ := e
    rw [insertEntry]
    cases hc : compare k a with
    | lt => simp [find?]
    | eq => simp [find?]
    | gt =>
      have hne : a ≠ k := by
        rintro rfl
        simp [Std.ReflOrd.compare_self] at hc
      simpa [find?, hne] using ih

theorem get?_insert_of_ne [Std.TransOrd κ] [Std.LawfulEqOrd κ] (m : SortedMap κ ν) {k a : κ}
    (v : ν) (h : a ≠ k) : (m.insert k v).get? a = m.get? a := by
  show find? a (insertEntry k v m.entries) = find? a m.entries
  induction m.entries with
  | nil => simp [insertEntry, find?, Ne.symm h]
  | cons e rest ih =>
    obtain ⟨b, x⟩ := e
    rw [insertEntry]
    cases hc : compare k b with
    | lt => simp [find?, Ne.symm h]
    | eq =>
      obtain rfl := Std.LawfulEqCmp.eq_of_compare hc
      simp [find?, Ne.symm h]
    | gt => by_cases hb : b = a <;> simp [find?, hb, ih]

/-! ## Entries and look-ups -/

omit [Ord κ] in
theorem find?_append (k : κ) (l₁ l₂ : List (κ × ν)) :
    find? k (l₁ ++ l₂) = (find? k l₁).or (find? k l₂) := by
  induction l₁ with
  | nil => rfl
  | cons e rest ih =>
    obtain ⟨a, x⟩ := e
    by_cases ha : a = k <;> simp [find?, ha, ih]

omit [Ord κ] in
theorem mem_of_find?_eq_some {k : κ} {v : ν} {l : List (κ × ν)} (h : find? k l = some v) :
    (k, v) ∈ l := by
  induction l with
  | nil => cases h
  | cons e rest ih =>
    obtain ⟨a, x⟩ := e
    by_cases ha : a = k
    · simp [find?, ha] at h
      simp [ha, h]
    · simp only [find?, beq_iff_eq, ha, if_false] at h
      exact List.mem_cons_of_mem _ (ih h)

omit [Ord κ] in
theorem find?_eq_none_of_notMem {k : κ} {l : List (κ × ν)} (h : k ∉ l.map Prod.fst) :
    find? k l = none := by
  cases hv : find? k l with
  | none => rfl
  | some v => exact absurd (List.mem_map_of_mem (mem_of_find?_eq_some hv)) h

omit [Ord κ] in
theorem find?_eq_none_iff {k : κ} {l : List (κ × ν)} : find? k l = none ↔ k ∉ l.map Prod.fst := by
  refine ⟨fun h hmem => ?_, find?_eq_none_of_notMem⟩
  obtain ⟨⟨a, v⟩, he, rfl⟩ := List.mem_map.mp hmem
  obtain ⟨before, after, rfl⟩ := List.append_of_mem he
  rw [find?_append, Option.or_eq_none_iff] at h
  simp [find?] at h

omit [Ord κ] in
/-- Of the entries for a key the first one is found. -/
theorem find?_eq_some_iff {k : κ} {v : ν} {l : List (κ × ν)} :
    find? k l = some v ↔
      ∃ before after, l = before ++ (k, v) :: after ∧ k ∉ before.map Prod.fst := by
  constructor
  · intro h
    induction l with
    | nil => cases h
    | cons e rest ih =>
      obtain ⟨a, x⟩ := e
      by_cases ha : a = k
      · simp only [find?, ha, beq_self_eq_true, if_true, Option.some.injEq] at h
        exact ⟨[], rest, by rw [ha, h]; rfl, List.not_mem_nil⟩
      · simp only [find?, beq_iff_eq, ha, if_false] at h
        obtain ⟨before, after, rfl, hbefore⟩ := ih h
        exact ⟨(a, x) :: before, after, rfl, by simpa [Ne.symm ha] using hbefore⟩
  · rintro ⟨before, after, rfl, hbefore⟩
    rw [find?_append, find?_eq_none_of_notMem hbefore]
    simp [find?]

omit [Ord κ] in
/-- From the end the last of the entries for a key is found. -/
theorem find?_reverse_eq_some_iff {k : κ} {v : ν} {l : List (κ × ν)} :
    find? k l.reverse = some v ↔
      ∃ before after, l = before ++ (k, v) :: after ∧ k ∉ after.map Prod.fst := by
  rw [find?_eq_some_iff]
  constructor
  · rintro ⟨after, before, heq, hafter⟩
    refine ⟨before.reverse, after.reverse, ?_, by simpa using hafter⟩
    rw [← l.reverse_reverse, heq]
    simp
  · rintro ⟨before, after, rfl, hafter⟩
    exact ⟨after.reverse, before.reverse, by simp, by simpa using hafter⟩

/-- Keys in ascending order are found from either end. -/
theorem find?_reverse [Std.ReflOrd κ] (k : κ) {l : List (κ × ν)}
    (h : (l.map Prod.fst).Pairwise (fun a b => compare a b = .lt)) :
    find? k l.reverse = find? k l := by
  induction l with
  | nil => rfl
  | cons e rest ih =>
    obtain ⟨a, x⟩ := e
    obtain ⟨hfirst, hrest⟩ := List.pairwise_cons.mp h
    rw [List.reverse_cons, find?_append, ih hrest]
    by_cases ha : a = k
    · have hk : k ∉ rest.map Prod.fst := by
        intro hmem
        have hlt := hfirst k hmem
        rw [ha, Std.ReflOrd.compare_self] at hlt
        cases hlt
      simp [find?, ha, find?_eq_none_of_notMem hk]
    · simp [find?, ha]

/-- A key is bound to the value of its entry. -/
theorem get?_eq_some_iff [Std.ReflOrd κ] {m : SortedMap κ ν} {k : κ} {v : ν} :
    m.get? k = some v ↔ (k, v) ∈ m.toList := by
  refine ⟨mem_of_find?_eq_some, fun h => ?_⟩
  obtain ⟨before, after, hsplit⟩ := List.append_of_mem h
  have hbefore : k ∉ before.map Prod.fst := by
    intro hmem
    have hascending := m.ascending
    rw [show m.entries = _ from hsplit, List.map_append, List.map_cons,
      List.pairwise_append] at hascending
    have hlt := hascending.2.2 k hmem k List.mem_cons_self
    rw [Std.ReflOrd.compare_self] at hlt
    cases hlt
  show find? k m.entries = some v
  rw [show m.entries = _ from hsplit, find?_append, find?_eq_none_of_notMem hbefore]
  simp [find?]

omit [BEq κ] [LawfulBEq κ] in
/-- No key stands twice. -/
theorem nodup_keys [Std.ReflOrd κ] (m : SortedMap κ ν) : m.keys.Nodup := by
  refine m.ascending.imp fun {a b} hlt heq => ?_
  rw [heq, Std.ReflOrd.compare_self] at hlt
  cases hlt

/-- What is not among the keys is bound to nothing. -/
theorem get?_eq_none_iff {m : SortedMap κ ν} {k : κ} : m.get? k = none ↔ k ∉ m.keys :=
  find?_eq_none_iff

omit [BEq κ] [LawfulBEq κ] in
/-- Before an entry stand those with smaller keys. -/
theorem mem_before_iff [Std.TransOrd κ] {m : SortedMap κ ν} {before after : List (κ × ν)}
    {e u : κ × ν} (h : m.toList = before ++ e :: after) :
    u ∈ before ↔ u ∈ m.toList ∧ compare u.1 e.1 = .lt := by
  have hpairs := List.pairwise_map.mp m.ascending
  rw [show m.entries = _ from h, List.pairwise_append, List.pairwise_cons] at hpairs
  obtain ⟨-, ⟨hafter, -⟩, hbefore⟩ := hpairs
  rw [h]
  constructor
  · exact fun hu => ⟨List.mem_append_left _ hu, hbefore u hu e List.mem_cons_self⟩
  · rintro ⟨hu, hlt⟩
    rcases List.mem_append.mp hu with hu | hu
    · exact hu
    · rcases List.mem_cons.mp hu with rfl | hu
      · rw [Std.ReflOrd.compare_self] at hlt
        cases hlt
      · rw [Std.OrientedCmp.gt_of_lt (hafter u hu)] at hlt
        cases hlt

theorem get?_mapEntries (f : κ → ν → μ) (m : SortedMap κ ν) (k : κ) :
    (m.mapEntries f).get? k = (m.get? k).map (f k) := by
  show find? k (m.entries.map fun e => (e.1, f e.1 e.2)) = (find? k m.entries).map (f k)
  induction m.entries with
  | nil => rfl
  | cons e rest ih =>
    obtain ⟨a, x⟩ := e
    by_cases ha : a = k
    · subst ha
      simp [find?]
    · simp [find?, ha, ih]

/-- Maps with the same look-ups are equal. The entries are in order, so that there is
only one way to list them. -/
theorem ext_get? [Std.TransOrd κ] [Std.LawfulEqOrd κ] {m n : SortedMap κ ν}
    (h : ∀ k, m.get? k = n.get? k) : m = n := by
  have hmem : ∀ e, e ∈ m.entries ↔ e ∈ n.entries := by
    rintro ⟨k, v⟩
    rw [← toList, ← toList, ← get?_eq_some_iff, ← get?_eq_some_iff, h]
  have hpairs : ∀ l : SortedMap κ ν, l.entries.Pairwise fun a b => compare a.1 b.1 = .lt :=
    fun l => List.pairwise_map.mp l.ascending
  have hnodup : ∀ l : SortedMap κ ν, l.entries.Nodup := fun l =>
    List.Pairwise.of_map Prod.fst (fun _ _ hne heq => hne (congrArg Prod.fst heq)) l.nodup_keys
  apply ext_entries
  refine List.Perm.eq_of_pairwise ?_ (hpairs m) (hpairs n)
    ((List.perm_ext_iff_of_nodup (hnodup m) (hnodup n)).mpr hmem)
  intro a b _ _ hlt hgt
  rw [Std.OrientedCmp.gt_of_lt hlt] at hgt
  cases hgt

/-! ## Maps from lists -/

section OfList

variable [Std.TransOrd κ] [Std.LawfulEqOrd κ]

private theorem get?_foldl_insert (l : List (κ × ν)) (m : SortedMap κ ν) (k : κ) :
    (l.foldl (fun m e => m.insert e.1 e.2) m).get? k = (find? k l.reverse).or (m.get? k) := by
  induction l generalizing m with
  | nil => rfl
  | cons e rest ih =>
    obtain ⟨a, x⟩ := e
    rw [List.foldl_cons, ih, List.reverse_cons, find?_append]
    by_cases ha : a = k
    · subst ha
      simp [find?, get?_insert_self]
    · simp [find?, ha, get?_insert_of_ne m x (Ne.symm ha)]

/-- Of the entries for a key the last one counts. -/
theorem get?_ofList (l : List (κ × ν)) (k : κ) :
    (ofList l).get? k = find? k l.reverse := by
  rw [ofList, get?_foldl_insert, get?_empty, Option.or_none]

theorem mem_keys_ofList_iff {l : List (κ × ν)} {k : κ} :
    k ∈ (ofList l).keys ↔ k ∈ l.map Prod.fst := by
  rw [← Decidable.not_iff_not, ← get?_eq_none_iff, get?_ofList, find?_eq_none_iff, List.map_reverse,
    List.mem_reverse]

/-- A map is the one that its entries list. -/
@[simp] theorem ofList_toList (m : SortedMap κ ν) : ofList m.toList = m := by
  apply ext_get?
  intro k
  rw [get?_ofList]
  exact find?_reverse k m.ascending

theorem mem_of_mem_ofList {l : List (κ × ν)} {e : κ × ν} (h : e ∈ (ofList l).toList) : e ∈ l := by
  obtain ⟨k, v⟩ := e
  rw [← get?_eq_some_iff, get?_ofList] at h
  exact List.mem_reverse.mp (mem_of_find?_eq_some h)

/-- Entries for different keys are all kept. -/
theorem mem_ofList_iff {l : List (κ × ν)} (hkeys : (l.map Prod.fst).Nodup) {e : κ × ν} :
    e ∈ (ofList l).toList ↔ e ∈ l := by
  refine ⟨mem_of_mem_ofList, fun h => ?_⟩
  obtain ⟨k, v⟩ := e
  rw [← get?_eq_some_iff, get?_ofList]
  obtain ⟨before, after, rfl⟩ := List.append_of_mem h
  rw [List.map_append, List.map_cons, List.nodup_append] at hkeys
  have hafter : k ∉ after.reverse.map Prod.fst := by
    rw [List.map_reverse, List.mem_reverse]
    exact (List.nodup_cons.mp hkeys.2.1).1
  simp [find?_append, find?_eq_none_of_notMem hafter, find?]

end OfList

end SortedMap

end StageRelay
