import Mathlib.Data.List.Nodup
import StageRelay.Proofs.Routing.Tables
import StageRelay.Proofs.Schema.Reading
import StageRelay.Schema.Config

/-!
# Routing tables are read back

In a document the keys of a routing table stand in the order of texts, not in that of statuses. But
each key is read as the one status that it was written for, so no two keys mean the same and the
order in which they are taken does not matter: a table whose statuses may be listed in a document is
read back from its keys. Only such tables are ever read.
-/

namespace StageRelay

namespace RoutingTable

/-! ## Keys -/

def key : Option Status → String
  | none => wildcardKey
  | some s => toString s

/-- What a key may stand for in a document: all statuses that are not listed, or a status of the
range that documents know. -/
def HasKey : Option Status → Prop
  | none => True
  | some s => isListable s = true

theorem readKey_wildcardKey : readKey wildcardKey = .ok none := by
  rfl

theorem toList_toString (s : Status) : (toString s).toList = Nat.toDigits 10 s.toNat := by
  show s.toNat.repr.toList = _
  rw [Nat.repr_eq_ofList_toDigits, String.toList_ofList]

/-- A status is read back from its digits. -/
theorem word?_toString (s : Status) : word? (toString s).toList = some s := by
  rw [word?, toList_toString, Text.natural?_toDigits s.toNat_lt]
  exact congrArg some UInt16.ofNat_toNat

theorem readKey_toString (s : Status) :
    readKey (toString s) = if isListable s then .ok (some s) else .error (.outOfRange s) := by
  have htrim : Text.trim (toString s) = toString s := by
    apply String.toList_inj.mp
    rw [Text.toList_trim, toList_toString]
    exact Text.trimChars_of_not_isBlank fun c hc =>
      Text.isBlank_of_isDigit (Text.isDigit_of_mem_toDigits c hc)
  have hne : toString s ≠ wildcardKey := by
    intro heq
    have hword := word?_toString s
    rw [heq] at hword
    cases hword
  rw [readKey]
  simp only [htrim, hne, if_false, word?_toString]

/-- Different statuses have different keys, and none has the key of all others. -/
theorem key_inj {o o' : Option Status} (h : key o = key o') : o = o' := by
  have hword := congrArg (fun k => word? k.toList) h
  cases o with
  | none =>
      cases o' with
      | none => rfl
      | some s' => exact hword.trans (word?_toString s')
  | some s =>
      have hsome := (word?_toString s).symm.trans hword
      cases o' with
      | none => exact hsome
      | some s' => exact hsome.trans (word?_toString s')

/-- Each key is read as what it was written for. -/
theorem readKey_key {o : Option Status} (ho : HasKey o) : readKey (key o) = .ok o := by
  cases o with
  | none => exact readKey_wildcardKey
  | some s => exact (readKey_toString s).trans (if_pos ho)

theorem hasKey_of_readKey {k : String} {o : Option Status} (h : readKey k = .ok o) : HasKey o := by
  rw [readKey] at h
  split at h
  next =>
    cases h
    exact trivial
  next =>
    split at h
    next => cases h
    next s _ =>
      split at h
      next hs =>
        cases h
        exact hs
      next => cases h

/-! ## Tables that can be listed -/

def Listable (t : RoutingTable) : Prop := ∀ e ∈ t.exact.toList, isListable e.1 = true

instance (t : RoutingTable) : Decidable t.Listable :=
  inferInstanceAs (Decidable (∀ e ∈ t.exact.toList, isListable e.1 = true))

variable {t u : RoutingTable} {o : Option Status} {d : Directive}

theorem listable_iff : t.Listable ↔ ∀ o d, t.directive? o = some d → HasKey o := by
  constructor
  · intro h o d ho
    cases o with
    | none => trivial
    | some s => exact h (s, d) (SortedMap.get?_eq_some_iff.mp ho)
  · rintro h ⟨s, d⟩ hmem
    exact h (some s) d (SortedMap.get?_eq_some_iff.mpr hmem)

theorem Listable.withEntry (h : t.Listable) (ho : HasKey o) (d : Directive) :
    (t.withEntry o d).Listable := by
  rw [listable_iff] at h ⊢
  intro o' d' hentry
  by_cases heq : o' = o
  · rwa [heq]
  · rw [directive?_withEntry_of_ne t d heq] at hentry
    exact h o' d' hentry

/-! ## Keys in a row -/

theorem addKey_of_readKey (t : RoutingTable) {k : String} (h : readKey k = .ok o)
    (d : Directive) : t.addKey k d = .ok (t.withEntry o d) := by
  rw [addKey, h]
  cases o <;> rfl

/-- What a key is read as, if it is read at all. -/
def reading (k : String) : Option Status := (readKey k).toOption.join

theorem reading_of_readKey {k : String} (h : readKey k = .ok o) : reading k = o := by
  rw [reading, h]
  rfl

/-- Keys that are all read are steps in the building of a table. -/
theorem addKeys_of_read {l : List (String × Directive)} (t : RoutingTable)
    (hread : ∀ e ∈ l, ∃ o, readKey e.1 = .ok o) :
    addKeys t l = .ok (t.after (l.map fun e => (reading e.1, e.2))) := by
  induction l generalizing t with
  | nil => rfl
  | cons e l ih =>
      obtain ⟨k, d⟩ := e
      obtain ⟨⟨o, ho⟩, hread⟩ := List.forall_mem_cons.mp hread
      rw [addKeys, addKey_of_readKey t ho d, List.map_cons, reading_of_readKey ho]
      exact ih (t.withEntry o d) hread

theorem listable_of_addKeys {l : List (String × Directive)} (ht : t.Listable)
    (h : addKeys t l = .ok u) : u.Listable := by
  induction l generalizing t with
  | nil =>
      cases h
      exact ht
  | cons e l ih =>
      obtain ⟨k, d⟩ := e
      rw [addKeys, addKey] at h
      cases hread : readKey k with
      | error err =>
          rw [hread] at h
          cases h
      | ok o =>
          rw [← addKey, addKey_of_readKey t hread d] at h
          exact ih (ht.withEntry (hasKey_of_readKey hread) d) h

theorem listable_of_ofKeys {m : SortedMap String Directive} (h : ofKeys m = .ok t) : t.Listable :=
  listable_of_addKeys (show empty.Listable from List.forall_mem_nil _) h

/-! ## Whole tables -/

def entries (t : RoutingTable) : List (Option Status × Directive) :=
  t.exact.toList.map (fun e => (some e.1, e.2)) ++ t.wildcard.toList.map fun d => (none, d)

theorem mem_entries_iff : (o, d) ∈ t.entries ↔ t.directive? o = some d := by
  cases o with
  | none => simp [entries, directive?]
  | some s => simp [entries, directive?, get?, SortedMap.get?_eq_some_iff]

theorem toKeys_eq (t : RoutingTable) :
    t.toKeys = SortedMap.ofList (t.entries.map fun e => (key e.1, e.2)) := by
  rw [toKeys, entries, List.map_append, List.map_map, List.map_map]
  cases t.wildcard <;> rfl

/-- A table has one directive at most for each status, and for all others. -/
theorem nodup_entries (t : RoutingTable) : (t.entries.map Prod.fst).Nodup := by
  have hexact : (t.exact.toList.map Prod.fst).Nodup := t.exact.nodup_keys
  rw [entries, List.map_append, List.map_map, List.map_map, List.nodup_append]
  refine ⟨?_, ?_, ?_⟩
  · have hsome := List.Nodup.map (f := some) (fun _ _ => Option.some.inj) hexact
    rwa [List.map_map] at hsome
  · cases t.wildcard <;> simp
  · intro o ho o' ho' heq
    obtain ⟨e, -, rfl⟩ := List.mem_map.mp ho
    obtain ⟨d, -, rfl⟩ := List.mem_map.mp ho'
    cases heq

/-- Each directive stands under its key, and nothing else is listed. -/
theorem mem_toKeys_iff (t : RoutingTable) {e : String × Directive} :
    e ∈ t.toKeys.toList ↔ ∃ o d, t.directive? o = some d ∧ e = (key o, d) := by
  have hkeys : ((t.entries.map fun e => (key e.1, e.2)).map Prod.fst).Nodup := by
    rw [List.map_map, show Prod.fst ∘ (fun e : Option Status × Directive => (key e.1, e.2)) =
      key ∘ Prod.fst from rfl, ← List.map_map]
    exact List.Nodup.map (fun _ _ => key_inj) (nodup_entries t)
  rw [toKeys_eq, SortedMap.mem_ofList_iff hkeys, List.mem_map]
  constructor
  · rintro ⟨⟨o, d⟩, hmem, rfl⟩
    exact ⟨o, d, mem_entries_iff.mp hmem, rfl⟩
  · rintro ⟨o, d, hentry, rfl⟩
    exact ⟨(o, d), mem_entries_iff.mpr hentry, rfl⟩

/-- A table whose statuses may be listed is read back from its keys. The keys ascend as texts, but
each of them means something else, so their order does not matter. -/
theorem ofKeys_toKeys (ht : t.Listable) : ofKeys t.toKeys = .ok t := by
  have hread : ∀ {o d}, t.directive? o = some d → readKey (key o) = .ok o :=
    fun hentry => readKey_key (listable_iff.mp ht _ _ hentry)
  have hkeys : ∀ e ∈ t.toKeys.toList, ∃ o, readKey e.1 = .ok o := by
    intro e he
    obtain ⟨o, d, hentry, rfl⟩ := (mem_toKeys_iff t).mp he
    exact ⟨o, hread hentry⟩
  rw [ofKeys, addKeys_of_read empty hkeys]
  refine congrArg Except.ok (after_empty_of_mem_iff fun o d => ?_)
  rw [List.mem_map]
  constructor
  · rintro ⟨e, he, heq⟩
    obtain ⟨o', d', hentry, rfl⟩ := (mem_toKeys_iff t).mp he
    rw [reading_of_readKey (hread hentry)] at heq
    cases heq
    exact hentry
  · intro hentry
    refine ⟨(key o, d), (mem_toKeys_iff t).mpr ⟨o, d, hentry, rfl⟩, ?_⟩
    rw [reading_of_readKey (hread hentry)]

end RoutingTable

theorem Directive.reads_name (d : Directive) : Directive.reader.Reads (.string d.name) d := by
  apply Reader.reads_constant
  cases d <;> rfl

namespace RoutingTable

theorem reads_toJson {t : RoutingTable} (ht : t.Listable) : reader.Reads t.toJson t := by
  intro p hp
  have hkeys : (Reader.table Directive.reader).Reads t.toJson t.toKeys :=
    Reader.reads_map t.toKeys fun e _ => e.2.reads_name
  rw [reader, hkeys p hp]
  simp only [bind, Except.bind, ofKeys_toKeys ht]
  rfl

/-- Whatever document a table is read from, its statuses may be listed. -/
theorem ensures_listable : reader.Ensures Listable := by
  intro p v t h
  obtain ⟨m, -, h⟩ := Reader.exists_of_bind_eq_ok h
  split at h
  next u hu =>
    cases h
    exact listable_of_ofKeys hu
  next => cases h

end RoutingTable

end StageRelay
