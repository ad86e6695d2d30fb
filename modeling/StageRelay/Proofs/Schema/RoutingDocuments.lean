import StageRelay.Proofs.Lists
import StageRelay.Proofs.Schema.RoundTrip
import StageRelay.Proofs.Text.ByteOrder
import StageRelay.Proofs.Text.Numerals

/-!
# Which documents are routing tables

A key may be spelled in many ways: with blanks around it, with a plus sign, with zeros in front.
`RoutingTable.Denotes` says what a key stands for, without the reader of keys. A map from keys is a
routing table when every key stands for something. Of several keys for one status the greatest
counts, in the order of their bytes as they are spelled, and where keys are refused the error is
about the least of them.

Written as a document, a table has one key for each of its directives, and this document is read as
the same table unless the table lists a status that no document may list.
-/

namespace StageRelay

namespace RoutingTable

open Text (Spells bytes trim)

/-! ## What a key stands for -/

/-- What a key stands for in a document: a star for all statuses that are not listed, and a number
from 100 to 599 for one status. Blanks around either do not count, and the number may have zeros or
a plus sign before it. -/
inductive Denotes (key : String) : Option Status → Prop
  | others (h : trim key = "*") : Denotes key none
  | single {s : Status} (h : Spells (trim key).toList s.toNat) (hmin : 100 ≤ s.toNat)
      (hmax : s.toNat ≤ 599) : Denotes key (some s)

/-- Why a key that stands for nothing is refused: it is a number that is no status code, or it is
no number of 16 bits at all. -/
inductive RefusedFor (key : String) : RoutingKeyError → Prop
  | outOfRange {s : Status} (h : Spells (trim key).toList s.toNat)
      (hrange : ¬ (100 ≤ s.toNat ∧ s.toNat ≤ 599)) : RefusedFor key (.outOfRange s)
  | notAStatus (hstar : trim key ≠ "*") (h : ∀ n ≤ 65535, ¬ Spells (trim key).toList n) :
      RefusedFor key (.notAStatus (trim key))

variable {t : RoutingTable} {k : String} {o : Option Status} {s : Status} {d : Directive}
variable {e : RoutingKeyError} {cs : List Char}

theorem isListable_iff : isListable s = true ↔ 100 ≤ s.toNat ∧ s.toNat ≤ 599 := by
  rw [isListable, Bool.and_eq_true, decide_eq_true_eq, decide_eq_true_eq, UInt16.le_iff_toNat_le,
    UInt16.le_iff_toNat_le]
  rfl

theorem word?_eq_some_iff : word? cs = some s ↔ Spells cs s.toNat := by
  rw [word?, Option.map_eq_some_iff]
  constructor
  · rintro ⟨n, hn, rfl⟩
    obtain ⟨hspells, hlt⟩ := Text.natural?_eq_some_iff.mp hn
    rwa [Nat.toUInt16_eq, UInt16.toNat_ofNat_of_lt' hlt]
  · intro h
    exact ⟨s.toNat, Text.natural?_eq_some_iff.mpr ⟨h, s.toNat_lt⟩, UInt16.ofNat_toNat⟩

theorem word?_eq_none_iff : word? cs = none ↔ ∀ n ≤ 65535, ¬ Spells cs n := by
  rw [word?, Option.map_eq_none_iff, Option.eq_none_iff_forall_ne_some]
  constructor
  · intro h n hn hspells
    exact h n (Text.natural?_eq_some_iff.mpr ⟨hspells, Nat.lt_succ_of_le hn⟩)
  · intro h n hn
    obtain ⟨hspells, hlt⟩ := Text.natural?_eq_some_iff.mp hn
    exact h n (Nat.le_of_lt_succ hlt) hspells

theorem ne_star_of_spells {n : Nat} (h : Spells (trim k).toList n) : trim k ≠ "*" := by
  intro hstar
  rw [hstar] at h
  have hread := Text.natural?_eq_some_iff.mpr ⟨h, Nat.lt_succ_self n⟩
  cases hread

/-- Each key is read as what it stands for. -/
theorem readKey_of_denotes (h : Denotes k o) : readKey k = .ok o := by
  rw [readKey]
  cases h with
  | others hstar => exact if_pos hstar
  | single hspells hmin hmax =>
      have hlistable := isListable_iff.mpr ⟨hmin, hmax⟩
      simp only [show trim k ≠ wildcardKey from ne_star_of_spells hspells,
        word?_eq_some_iff.mpr hspells, hlistable, if_true, if_false]

theorem readKey_of_refusedFor (h : RefusedFor k e) : readKey k = .error e := by
  rw [readKey]
  cases h with
  | outOfRange hspells hrange =>
      have hlistable := mt isListable_iff.mp hrange
      simp only [show trim k ≠ wildcardKey from ne_star_of_spells hspells,
        word?_eq_some_iff.mpr hspells, hlistable, if_false]
      rfl
  | notAStatus hstar hnone =>
      simp only [show trim k ≠ wildcardKey from hstar, word?_eq_none_iff.mpr hnone, if_false]

/-- A key stands for something or is refused. -/
theorem denotes_or_refusedFor (k : String) : (∃ o, Denotes k o) ∨ ∃ e, RefusedFor k e := by
  by_cases hstar : trim k = "*"
  · exact .inl ⟨none, .others hstar⟩
  · cases hword : word? (trim k).toList with
    | none => exact .inr ⟨_, .notAStatus hstar (word?_eq_none_iff.mp hword)⟩
    | some s =>
        have hspells := word?_eq_some_iff.mp hword
        by_cases hrange : 100 ≤ s.toNat ∧ s.toNat ≤ 599
        · exact .inl ⟨some s, .single hspells hrange.1 hrange.2⟩
        · exact .inr ⟨_, .outOfRange hspells hrange⟩

theorem not_denotes_iff : (∀ o, ¬ Denotes k o) ↔ ∃ e, RefusedFor k e := by
  constructor
  · intro h
    exact (denotes_or_refusedFor k).resolve_left fun ⟨o, ho⟩ => h o ho
  · rintro ⟨e, he⟩ o ho
    cases (readKey_of_refusedFor he).symm.trans (readKey_of_denotes ho)

/-! ## Maps from keys -/

/-- The greatest of the keys that stand for a status, or for all others, by their bytes. -/
structure GreatestFor (m : SortedMap String Directive) (o : Option Status) (k : String) :
    Prop where
  mem : k ∈ m.keys
  denotes : Denotes k o
  greatest : ∀ k' ∈ m.keys, Denotes k' o → bytes k' ≤ bytes k

/-- The least of the keys that stand for nothing, by their bytes. -/
structure LeastRefused (m : SortedMap String Directive) (k : String) : Prop where
  mem : k ∈ m.keys
  refused : ∀ o, ¬ Denotes k o
  least : ∀ k' ∈ m.keys, (∀ o, ¬ Denotes k' o) → bytes k ≤ bytes k'

variable {m : SortedMap String Directive}

theorem addKeys_of_refusedFor {earlier later : List (String × Directive)} (t : RoutingTable)
    (hread : ∀ e ∈ earlier, ∃ o, Denotes e.1 o) (h : RefusedFor k e) :
    addKeys t (earlier ++ (k, d) :: later) = .error e := by
  induction earlier generalizing t with
  | nil =>
      rw [List.nil_append, addKeys, addKey, readKey_of_refusedFor h]
      rfl
  | cons x earlier ih =>
      obtain ⟨k', d'⟩ := x
      obtain ⟨⟨o, ho⟩, hread⟩ := List.forall_mem_cons.mp hread
      rw [List.cons_append, addKeys, addKey_of_readKey t (readKey_of_denotes ho) d']
      exact ih (t.withEntry o d') hread

/-- All keys stand for something, or one of them is the first that is refused. -/
theorem denote_or_first_refused (l : List (String × Directive)) :
    (∀ e ∈ l, ∃ o, Denotes e.1 o) ∨
      ∃ earlier k d later err, l = earlier ++ (k, d) :: later ∧
        (∀ e ∈ earlier, ∃ o, Denotes e.1 o) ∧ RefusedFor k err := by
  rcases forall_or_first (fun e => ∃ o, Denotes e.1 o) l with
    hall | ⟨earlier, ⟨k, d⟩, later, rfl, hearlier, hk⟩
  · exact .inl hall
  · obtain ⟨err, hrefused⟩ := (denotes_or_refusedFor k).resolve_left hk
    exact .inr ⟨earlier, k, d, later, err, rfl, hearlier, hrefused⟩

theorem exists_mem_toList_of_mem_keys (hk : k ∈ m.keys) : ∃ d, (k, d) ∈ m.toList := by
  obtain ⟨⟨k, d⟩, hmem, rfl⟩ := List.mem_map.mp hk
  exact ⟨d, hmem⟩

theorem denote_iff_keys :
    (∀ e ∈ m.toList, ∃ o, Denotes e.1 o) ↔ ∀ k ∈ m.keys, ∃ o, Denotes k o := by
  simp only [SortedMap.keys, List.forall_mem_map]
  rfl

/-- A map is a table, or the least key that is refused decides the error. Keys that are refused
later are not reported. -/
theorem ofKeys_cases (m : SortedMap String Directive) :
    ((∀ e ∈ m.toList, ∃ o, Denotes e.1 o) ∧
      ofKeys m = .ok (empty.after (m.toList.map fun e => (reading e.1, e.2)))) ∨
    ∃ k e, LeastRefused m k ∧ RefusedFor k e ∧ ofKeys m = .error e := by
  rcases denote_or_first_refused m.toList with
    hall | ⟨earlier, k, d, later, e, hsplit, hearlier, hk⟩
  · refine .inl ⟨hall, addKeys_of_read empty fun e he => ?_⟩
    exact (hall e he).imp fun _ => readKey_of_denotes
  · refine .inr ⟨k, e, ⟨?_, not_denotes_iff.mpr ⟨e, hk⟩, ?_⟩, hk, ?_⟩
    · have hmem : (k, d) ∈ m.toList := by simp [hsplit]
      exact List.mem_map_of_mem hmem
    · intro k' hk' hrefused
      obtain ⟨d', hmem⟩ := exists_mem_toList_of_mem_keys hk'
      refine List.not_lt.mp fun hlt => ?_
      have hbefore := (SortedMap.mem_before_iff hsplit).mpr
        ⟨hmem, Text.compare_eq_lt_iff_bytes_lt.mpr hlt⟩
      obtain ⟨o, ho⟩ := hearlier _ hbefore
      exact hrefused o ho
    · rw [ofKeys, hsplit]
      exact addKeys_of_refusedFor empty hearlier hk

theorem GreatestFor.eq {k' : String} (h : GreatestFor m o k) (h' : GreatestFor m o k') : k = k' :=
  Text.eq_of_bytes_le (h'.greatest k h.mem h.denotes) (h.greatest k' h'.mem h'.denotes)

theorem exists_latest_of_denotes (hk : k ∈ m.keys) (h : Denotes k o) :
    ∃ d, latest o (m.toList.map fun e => (reading e.1, e.2)) = some d := by
  obtain ⟨d, hmem⟩ := exists_mem_toList_of_mem_keys hk
  refine Option.ne_none_iff_exists'.mp fun hnone => ?_
  have hother := latest_eq_none_iff.mp hnone _ (List.mem_map_of_mem hmem)
  simp only [reading_of_readKey (readKey_of_denotes h), ne_eq, not_true] at hother

/-- The latest of the keys for a status is the greatest of them. -/
theorem exists_greatestFor_of_latest (hread : ∀ e ∈ m.toList, ∃ o, Denotes e.1 o)
    (h : latest o (m.toList.map fun e => (reading e.1, e.2)) = some d) :
    ∃ k, GreatestFor m o k ∧ m.get? k = some d := by
  obtain ⟨earlier, later, hsteps, hlater⟩ := latest_eq_some_iff.mp h
  obtain ⟨before, rest, hsplit, -, hrest⟩ := List.map_eq_append_iff.mp hsteps
  obtain ⟨⟨k, d'⟩, after, rfl, hk, rfl⟩ := List.map_eq_cons_iff.mp hrest
  have hmem : (k, d') ∈ m.toList := by simp [hsplit]
  obtain ⟨o', hdenotes⟩ := hread _ hmem
  rw [reading_of_readKey (readKey_of_denotes hdenotes)] at hk
  cases hk
  refine ⟨k, ⟨List.mem_map_of_mem hmem, hdenotes, ?_⟩, SortedMap.get?_eq_some_iff.mpr hmem⟩
  intro k' hk' hdenotes'
  obtain ⟨d', hmem'⟩ := exists_mem_toList_of_mem_keys hk'
  -- keys before the latest one are smaller, and those after it stand for something else
  have hplace := hmem'
  rw [hsplit] at hplace
  rcases List.mem_append.mp hplace with hbefore | hplace
  · have hlt := Text.compare_eq_lt_iff_bytes_lt.mp ((SortedMap.mem_before_iff hsplit).mp hbefore).2
    exact List.le_of_lt hlt
  · rcases List.mem_cons.mp hplace with heq | hafter
    · rw [(Prod.mk.inj heq).1]
      exact List.le_refl _
    · have hother := hlater _ (List.mem_map_of_mem hafter)
      simp only [reading_of_readKey (readKey_of_denotes hdenotes'), ne_eq, not_true] at hother

theorem ofKeys_ok_iff : (∃ t, ofKeys m = .ok t) ↔ ∀ k ∈ m.keys, ∃ o, Denotes k o := by
  rw [← denote_iff_keys]
  rcases ofKeys_cases m with ⟨hread, hok⟩ | ⟨k, e, hleast, -, herror⟩
  · exact ⟨fun _ => hread, fun _ => ⟨_, hok⟩⟩
  · constructor
    · rintro ⟨t, hok⟩
      cases herror.symm.trans hok
    · intro hread
      obtain ⟨o, ho⟩ := denote_iff_keys.mp hread k hleast.mem
      exact absurd ho (hleast.refused o)

theorem exists_leastRefused (h : ofKeys m = .error e) : ∃ k, LeastRefused m k ∧ RefusedFor k e := by
  rcases ofKeys_cases m with ⟨-, hok⟩ | ⟨k, e', hleast, hrefused, herror⟩
  · cases hok.symm.trans h
  · obtain rfl := Except.error.inj (herror.symm.trans h)
    exact ⟨k, hleast, hrefused⟩

/-- A table that is read directs what the greatest key directs, of several keys that stand for the
same status. -/
theorem directive?_of_ofKeys (h : ofKeys m = .ok t) (o : Option Status) :
    (∀ d, t.directive? o = some d ↔ ∃ k, GreatestFor m o k ∧ m.get? k = some d) ∧
      (t.directive? o = none ↔ ∀ k ∈ m.keys, ¬ Denotes k o) := by
  rcases ofKeys_cases m with ⟨hread, hok⟩ | ⟨k, e, -, -, herror⟩
  · obtain rfl := Except.ok.inj (hok.symm.trans h)
    rw [directive?_after, directive?_empty, Option.or_none]
    refine ⟨fun d => ⟨exists_greatestFor_of_latest hread, ?_⟩, ?_, ?_⟩
    · rintro ⟨k, hgreatest, hd⟩
      obtain ⟨d', hd'⟩ := exists_latest_of_denotes hgreatest.mem hgreatest.denotes
      obtain ⟨k', hgreatest', hk'⟩ := exists_greatestFor_of_latest hread hd'
      rw [hgreatest.eq hgreatest', hk'] at hd
      rw [hd', hd]
    · intro hnone k hk hdenotes
      obtain ⟨d, hd⟩ := exists_latest_of_denotes hk hdenotes
      cases hnone.symm.trans hd
    · intro hnone
      refine Option.eq_none_iff_forall_ne_some.mpr fun d hd => ?_
      obtain ⟨k, hgreatest, -⟩ := exists_greatestFor_of_latest hread hd
      exact hnone k hgreatest.mem hgreatest.denotes
  · cases herror.symm.trans h

/-- The wording for a key that is refused. -/
theorem RefusedFor.message_eq (h : RefusedFor k e) :
    (∃ n ≤ 65535, Spells (trim k).toList n ∧
        e.message = s!"status code {n} out of range 100..=599") ∨
      ((∀ n ≤ 65535, ¬ Spells (trim k).toList n) ∧
        e.message = s!"invalid response routing key '{trim k}'") := by
  cases h with
  | @outOfRange s hspells _ => exact .inl ⟨s.toNat, Nat.le_of_lt_succ s.toNat_lt, hspells, rfl⟩
  | notAStatus _ h => exact .inr ⟨h, rfl⟩

theorem listable_iff_range :
    t.Listable ↔ ∀ s d, t.get? s = some d → 100 ≤ s.toNat ∧ s.toNat ≤ 599 := by
  rw [listable_iff]
  constructor
  · exact fun h s d hs => isListable_iff.mp (h (some s) d hs)
  · intro h o d ho
    cases o with
    | none => trivial
    | some s => exact isListable_iff.mpr (h s d ho)

/-- A map from keys is a routing table when every key, but for blanks around it, is a star or a
number from 100 to 599. Of the keys for one status the greatest counts, and so of those for all
others. Otherwise the error is about the least key that is refused, with the number in it if it is
one of 16 bits. Whatever document a configuration is read from, its tables list nothing but numbers
from 100 to 599. -/
theorem ofKeys_heeds_bytes :
    (∀ m : SortedMap String Directive,
      ((∃ t, ofKeys m = .ok t) ↔ ∀ k ∈ m.keys, ∃ o, Denotes k o) ∧
      (∀ t, ofKeys m = .ok t → ∀ o,
        (∀ d, t.directive? o = some d ↔ ∃ k, GreatestFor m o k ∧ m.get? k = some d) ∧
        (t.directive? o = none ↔ ∀ k ∈ m.keys, ¬ Denotes k o)) ∧
      ∀ e, ofKeys m = .error e → ∃ k, LeastRefused m k ∧
        ((∃ n ≤ 65535, Spells (trim k).toList n ∧
            e.message = s!"status code {n} out of range 100..=599") ∨
          ((∀ n ≤ 65535, ¬ Spells (trim k).toList n) ∧
            e.message = s!"invalid response routing key '{trim k}'"))) ∧
    ∀ (f : DocumentFormat) (origin text : String) (c : Config),
      Config.parse f origin text = .ok c → ∀ e ∈ c.extensions.toList, ∀ s d,
        e.2.routing.get? s = some d → 100 ≤ s.toNat ∧ s.toNat ≤ 599 := by
  refine ⟨fun m => ⟨ofKeys_ok_iff, fun t h => directive?_of_ofKeys h, ?_⟩, ?_⟩
  · intro e h
    obtain ⟨k, hleast, hrefused⟩ := exists_leastRefused h
    exact ⟨k, hleast, hrefused.message_eq⟩
  · intro f origin text c h e he
    exact listable_iff_range.mp (Config.of_parse Config.ensures_listable h e he)

/-- The third spelling is the greatest, and the number in front of the star is no status code. -/
example :
    ((ofKeys (.ofList [("+204", .forward), (" 204 ", .forward), ("204", .terminate)])).map
      fun t => t.get? 204) = .ok (some .terminate) ∧
    ofKeys (.ofList [("007", .forward), ("*", .forward)]) = .error (.outOfRange 7) := by
  decide

/-! ## Tables as maps from keys -/

theorem get?_toKeys (t : RoutingTable) (o : Option Status) (d : Directive) :
    t.toKeys.get? (key o) = some d ↔ t.directive? o = some d := by
  rw [SortedMap.get?_eq_some_iff, mem_toKeys_iff]
  constructor
  · rintro ⟨o', d', hentry, heq⟩
    obtain ⟨hkey, rfl⟩ := Prod.mk.inj heq
    rwa [key_inj hkey]
  · exact fun h => ⟨o, d, h, rfl⟩

theorem exists_eq_key_of_mem (hk : k ∈ t.toKeys.keys) :
    ∃ o, (t.directive? o).isSome ∧ k = key o := by
  obtain ⟨d, hmem⟩ := exists_mem_toList_of_mem_keys hk
  obtain ⟨o, d', hentry, heq⟩ := (mem_toKeys_iff t).mp hmem
  exact ⟨o, by rw [hentry]; rfl, (Prod.mk.inj heq).1⟩

theorem toKeys_inj {u : RoutingTable} (h : u.toKeys = t.toKeys) : u = t := by
  apply ext_directive?
  intro o
  apply Option.ext
  intro d
  rw [← get?_toKeys, ← get?_toKeys, h]

/-- A table that lists a status which no document may list is not read back. -/
theorem ofKeys_toKeys_of_not_listable (h : ¬ t.Listable) :
    ∃ s, (∃ d, t.get? s = some d) ∧ ¬ (100 ≤ s.toNat ∧ s.toNat ≤ 599) ∧
      ofKeys t.toKeys = .error (.outOfRange s) := by
  cases hread : ofKeys t.toKeys with
  | ok u =>
      have hall := ofKeys_ok_iff.mp ⟨u, hread⟩
      refine absurd (listable_iff_range.mpr fun s d hs => ?_) h
      have hmem := SortedMap.get?_eq_some_iff.mp ((get?_toKeys t (some s) d).mpr hs)
      obtain ⟨o, ho⟩ := hall _ (List.mem_map_of_mem hmem)
      have hkey := (readKey_toString s).symm.trans (readKey_of_denotes ho)
      split at hkey
      next hlistable => exact isListable_iff.mp hlistable
      next => cases hkey
  | error e =>
      obtain ⟨k, hleast, hrefused⟩ := exists_leastRefused hread
      obtain ⟨o, hentry, rfl⟩ := exists_eq_key_of_mem hleast.mem
      have hkey := readKey_of_refusedFor hrefused
      cases o with
      | none => cases readKey_wildcardKey.symm.trans hkey
      | some s =>
          have hkey := (readKey_toString s).symm.trans hkey
          split at hkey
          next => cases hkey
          next hrange =>
            obtain rfl := Except.error.inj hkey
            exact ⟨s, Option.isSome_iff_exists.mp hentry, mt isListable_iff.mpr hrange, rfl⟩

/-- A table has one key for each of its directives, and two tables with the same keys for the same
directives are equal. The table is read back from its keys if it lists nothing but numbers from 100
to 599, and else the error is about a number of the table that is out of this range. So a table
that was read is read back, and its keys stand for what the keys that it was read from stand
for. -/
theorem toKeys_normal_form (t : RoutingTable) :
    ((∀ o d, t.directive? o = some d ↔ t.toKeys.get? (key o) = some d) ∧
      (∀ k ∈ t.toKeys.keys, ∃ o, (t.directive? o).isSome ∧ k = key o) ∧
      (∀ o o', key o = key o' → o = o') ∧ ∀ u : RoutingTable, u.toKeys = t.toKeys → u = t) ∧
    ((∀ s d, t.get? s = some d → 100 ≤ s.toNat ∧ s.toNat ≤ 599) → ofKeys t.toKeys = .ok t) ∧
    ((∃ s d, t.get? s = some d ∧ ¬ (100 ≤ s.toNat ∧ s.toNat ≤ 599)) →
      ∃ s, (∃ d, t.get? s = some d) ∧ ¬ (100 ≤ s.toNat ∧ s.toNat ≤ 599) ∧
        ofKeys t.toKeys = .error (.outOfRange s)) ∧
    ∀ m, ofKeys m = .ok t → ofKeys t.toKeys = .ok t ∧
      ∀ o d, (∃ k, GreatestFor m o k ∧ m.get? k = some d) ↔
        ∃ k, GreatestFor t.toKeys o k ∧ t.toKeys.get? k = some d := by
  refine ⟨⟨fun o d => (get?_toKeys t o d).symm, fun k hk => exists_eq_key_of_mem hk,
    fun o o' h => key_inj h, fun u h => toKeys_inj h⟩, ?_, ?_, ?_⟩
  · exact fun h => ofKeys_toKeys (listable_iff_range.mpr h)
  · rintro ⟨s, d, hs, hrange⟩
    exact ofKeys_toKeys_of_not_listable fun h => hrange (listable_iff_range.mp h s d hs)
  · intro m hm
    have hback : ofKeys t.toKeys = .ok t :=
      ofKeys_toKeys (listable_of_ofKeys hm)
    refine ⟨hback, fun o d => ?_⟩
    rw [← (directive?_of_ofKeys hm o).1 d, ← (directive?_of_ofKeys hback o).1 d]

end RoutingTable

end StageRelay
