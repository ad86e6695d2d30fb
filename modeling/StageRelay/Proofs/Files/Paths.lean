import StageRelay.Files.Tree
import StageRelay.Text.Utf8

/-!
# Where paths lead

A path that leads anywhere leads where its components say, whatever is there. On its way only some
places are used. Two trees that have and allow the same there are the same for the path.

A path is found just when something stands at its end, it is not too long, and no place on its way
is out of reach.

The extension of a path is what stands behind the last point of the name of its file.
-/

namespace StageRelay

namespace FileTree

variable {t u : FileTree} {path : String} {place place' : List String} {c : String}
variable {cs : List String} {e : FileEntry}

/-! ## Single steps -/

theorem bind_eq_ok_iff {α β : Type} {x : Except FileError α} {f : α → Except FileError β} {b : β} :
    (x >>= f) = .ok b ↔ ∃ a, x = .ok a ∧ f a = .ok b := by
  cases x with
  | error e => exact iff_of_false nofun (fun ⟨a, ha, _⟩ => nomatch ha)
  | ok a => exact ⟨fun h => ⟨a, rfl, h⟩, fun ⟨a', ha, h⟩ => by cases ha; exact h⟩

theorem allow_eq_ok_iff {use : FileUse} :
    t.allow place use = .ok () ↔ t.refusal? place use = none := by
  rw [allow]
  cases t.refusal? place use with
  | none => exact iff_of_true rfl rfl
  | some e => exact iff_of_false nofun nofun

theorem look?_eq_ok_iff {found : Option FileEntry} :
    t.look? place = .ok found ↔ t.refusal? place .look = none ∧ t.entry? place = found := by
  rw [look?, bind_eq_ok_iff]
  constructor
  · rintro ⟨_, hallow, hfound⟩
    exact ⟨allow_eq_ok_iff.mp hallow, Except.ok.inj hfound⟩
  · rintro ⟨hallow, rfl⟩
    exact ⟨(), allow_eq_ok_iff.mpr hallow, rfl⟩

theorem look_eq_ok_iff :
    t.look place = .ok e ↔ t.refusal? place .look = none ∧ t.entry? place = some e := by
  rw [← look?_eq_ok_iff, look, bind_eq_ok_iff]
  constructor
  · rintro ⟨found, hlook, hfound⟩
    split at hfound
    next =>
      cases hfound
      exact hlook
    next => cases hfound
  · exact fun hlook => ⟨some e, hlook, rfl⟩

theorem enter_eq_ok_iff : t.enter place = .ok () ↔
    t.refusal? place .look = none ∧ t.entry? place = some .directory := by
  rw [← look_eq_ok_iff, enter, bind_eq_ok_iff]
  constructor
  · rintro ⟨found, hlook, hfound⟩
    split at hfound
    next => exact hlook
    next => cases hfound
  · exact fun hlook => ⟨.directory, hlook, rfl⟩

theorem pass_eq_ok_iff : t.pass place c = .ok () ↔
    t.entry? place = some .directory ∧ t.refusal? place .look = none ∧
      (c ≠ "" → t.refusal? place .search = none) := by
  have hsearch : (if c = "" then pure () else t.allow place .search) = .ok () ↔
      (c ≠ "" → t.refusal? place .search = none) := by
    split
    next hc => exact iff_of_true rfl (fun hne => absurd hc hne)
    next hc => rw [allow_eq_ok_iff, imp_iff_right hc]
  rw [← hsearch, and_left_comm, ← and_assoc, ← enter_eq_ok_iff, pass, bind_eq_ok_iff]
  exact ⟨fun ⟨(), h⟩ => h, fun h => ⟨(), h⟩⟩

theorem walk_cons_eq_ok_iff : t.walk place (c :: cs) = .ok place' ↔
    t.pass place c = .ok () ∧ t.walk (step place c) cs = .ok place' := by
  rw [walk, bind_eq_ok_iff]
  exact ⟨fun ⟨(), h⟩ => h, fun h => ⟨(), h⟩⟩

theorem find_eq_ok_iff : t.find path = .ok (place, e) ↔
    checkPath path = .ok () ∧
      t.walk (t.origin path) (FilePath.components path) = .ok place ∧ t.look place = .ok e := by
  simp only [find, bind_eq_ok_iff]
  constructor
  · rintro ⟨_, hcheck, found, hwalk, e', hlook, h⟩
    cases h
    exact ⟨hcheck, hwalk, hlook⟩
  · rintro ⟨hcheck, hwalk, hlook⟩
    exact ⟨(), hcheck, place, hwalk, e, hlook, rfl⟩

/-! ## Whole ways -/

/-- Where the components of a path lead, by their names alone. What stands there, and whether one
can go there, is another question. -/
def settle (place : List String) (cs : List String) : List String := cs.foldl step place

/-- A path that leads anywhere leads where its components do. -/
theorem walk_eq_ok (h : t.walk place cs = .ok place') : place' = settle place cs := by
  induction cs generalizing place with
  | nil =>
      cases h
      rfl
  | cons c cs ih => exact ih (walk_cons_eq_ok_iff.mp h).2

/-- No place on a way is out of reach: each may be looked at, and be searched if a component leads
on from it that is not empty. -/
def Allows (t : FileTree) : List String → List String → Prop
  | place, [] => t.refusal? place .look = none
  | place, c :: cs =>
    t.refusal? place .look = none ∧ (c ≠ "" → t.refusal? place .search = none) ∧
      t.Allows (step place c) cs

/-- A way is gone to its end where it could be gone if nothing were refused, and nothing is. -/
theorem walk_and_look_iff (t : FileTree) (place cs : List String) :
    (∃ place' e, t.walk place cs = .ok place' ∧ t.look place' = .ok e) ↔
      (∃ place' e, t.openly.walk place cs = .ok place' ∧ t.entry? place' = some e) ∧
        t.Allows place cs := by
  induction cs generalizing place with
  | nil =>
      constructor
      · rintro ⟨_, e, hwalk, hlook⟩
        cases hwalk
        obtain ⟨hallowed, he⟩ := look_eq_ok_iff.mp hlook
        exact ⟨⟨place, e, rfl, he⟩, hallowed⟩
      · rintro ⟨⟨_, e, hwalk, he⟩, hallowed⟩
        cases hwalk
        exact ⟨place, e, rfl, look_eq_ok_iff.mpr ⟨hallowed, he⟩⟩
  | cons c cs ih =>
      have hopen : t.openly.pass place c = .ok () ↔ t.entry? place = some .directory := by
        rw [pass_eq_ok_iff]
        exact and_iff_left ⟨rfl, fun _ => rfl⟩
      simp only [walk_cons_eq_ok_iff, and_assoc, exists_and_left, hopen, Allows, pass_eq_ok_iff]
      simp only [exists_and_left] at ih
      rw [ih]
      constructor
      · rintro ⟨hentry, hlook, hsearch, hrest, hallowed⟩
        exact ⟨hentry, hrest, hlook, hsearch, hallowed⟩
      · rintro ⟨hentry, hrest, hlook, hsearch, hallowed⟩
        exact ⟨hentry, hlook, hsearch, hrest, hallowed⟩

theorem pathExists_iff_find : t.pathExists path = true ↔
    ∃ place e, t.find path = .ok (place, e) := by
  rw [pathExists]
  cases t.find path with
  | error e => exact iff_of_false nofun (fun ⟨_, _, h⟩ => nomatch h)
  | ok found => exact iff_of_true rfl ⟨found.1, found.2, rfl⟩

theorem checkPath_eq_ok_iff : checkPath path = .ok () ↔
    (path ≠ "" ∧ FilePath.hasNul path = false) ∧ FilePath.isShort path = true := by
  rw [checkPath]
  split
  next hempty => exact iff_of_false nofun (fun h => h.1.1 hempty)
  next hempty =>
    cases FilePath.hasNul path with
    | true => exact iff_of_false nofun (fun h => nomatch h.1.2)
    | false =>
        cases FilePath.isShort path with
        | true => exact iff_of_true rfl ⟨⟨hempty, rfl⟩, rfl⟩
        | false => exact iff_of_false nofun (fun h => nomatch h.2)

theorem stands_iff : t.stands path = true ↔ (path ≠ "" ∧ FilePath.hasNul path = false) ∧
    ∃ place e, t.openly.walk (t.origin path) (FilePath.components path) = .ok place ∧
      t.entry? place = some e := by
  rw [stands, Bool.and_eq_true, Bool.and_eq_true, decide_eq_true_iff, Bool.not_eq_true']
  refine and_congr_right fun _ => ?_
  cases t.openly.walk (t.origin path) (FilePath.components path) with
  | error e => exact iff_of_false nofun (fun ⟨_, _, h, _⟩ => nomatch h)
  | ok found =>
      simp only [Except.toOption, Option.any_some, Option.isSome_iff_exists, Except.ok.injEq,
        exists_and_left, exists_eq_left']

/-- A path is found just when something stands at its end, it is not too long for the system, and
the system refuses nothing on its way. -/
theorem pathExists_iff : t.pathExists path = true ↔
    t.stands path = true ∧ FilePath.isShort path = true ∧
      t.Allows (t.origin path) (FilePath.components path) := by
  simp only [pathExists_iff_find, find_eq_ok_iff, exists_and_left, checkPath_eq_ok_iff, stands_iff]
  have hway := walk_and_look_iff t (t.origin path) (FilePath.components path)
  simp only [exists_and_left] at hway
  rw [hway]
  exact ⟨fun ⟨⟨hpath, hshort⟩, hstands, hallowed⟩ => ⟨⟨hpath, hstands⟩, hshort, hallowed⟩,
    fun ⟨⟨hpath, hstands⟩, hshort, hallowed⟩ => ⟨⟨hpath, hshort⟩, hstands, hallowed⟩⟩

/-- What is found is what stands where the components of the path lead. -/
theorem find_eq_ok_iff_of_pathExists (h : t.pathExists path = true) :
    t.find path = .ok (place, e) ↔
      place = settle (t.origin path) (FilePath.components path) ∧ t.entry? place = some e := by
  have hend : ∀ {place e}, t.find path = .ok (place, e) →
      place = settle (t.origin path) (FilePath.components path) ∧ t.entry? place = some e := by
    intro place e hfind
    obtain ⟨-, hwalk, hlook⟩ := find_eq_ok_iff.mp hfind
    exact ⟨walk_eq_ok hwalk, (look_eq_ok_iff.mp hlook).2⟩
  refine ⟨hend, ?_⟩
  rintro ⟨rfl, he⟩
  obtain ⟨found, e', hfind⟩ := pathExists_iff_find.mp h
  obtain ⟨rfl, he'⟩ := hend hfind
  rw [hfind, Option.some.inj (he'.symm.trans he)]

/-- A text can be read at a path: the path is found, a file of its bytes stands where the path
leads, and the file may be read. -/
structure HoldsText (t : FileTree) (path text : String) : Prop where
  found : t.pathExists path = true
  entry : t.entry? (settle (t.origin path) (FilePath.components path)) =
    some (.file text.toUTF8)
  readable : t.refusal? (settle (t.origin path) (FilePath.components path)) .read = none

theorem read_eq_ok_iff {bytes : ByteArray} : t.read path = .ok bytes ↔
    ∃ place, t.find path = .ok (place, .file bytes) ∧ t.refusal? place .read = none := by
  simp only [read, bind_eq_ok_iff]
  constructor
  · rintro ⟨⟨place, e⟩, hfind, _, hallow, hbytes⟩
    cases e with
    | file content =>
        obtain rfl : content = bytes := Except.ok.inj hbytes
        exact ⟨place, hfind, allow_eq_ok_iff.mp hallow⟩
    | directory => cases hbytes
  · rintro ⟨place, hfind, hallowed⟩
    exact ⟨_, hfind, (), allow_eq_ok_iff.mpr hallowed, rfl⟩

theorem readText_eq_ok_iff {text : String} :
    t.readText path = .ok text ↔ t.HoldsText path text := by
  have hbytes : t.readText path = .ok text ↔ t.read path = .ok text.toUTF8 := by
    simp only [readText, bind_eq_ok_iff]
    constructor
    · rintro ⟨bytes, hread, htext⟩
      split at htext
      next text' hdecoded =>
        cases htext
        rwa [Utf8.fromUTF8?_eq_some_iff.mp hdecoded]
      next => cases htext
    · exact fun hread => ⟨_, hread, by rw [Utf8.fromUTF8?_eq_some_iff.mpr rfl]; rfl⟩
  rw [hbytes, read_eq_ok_iff]
  constructor
  · rintro ⟨place, hfind, hallowed⟩
    have hfound := pathExists_iff_find.mpr ⟨_, _, hfind⟩
    obtain ⟨rfl, hentry⟩ := (find_eq_ok_iff_of_pathExists hfound).mp hfind
    exact ⟨hfound, hentry, hallowed⟩
  · rintro ⟨hfound, hentry, hallowed⟩
    exact ⟨_, (find_eq_ok_iff_of_pathExists hfound).mpr ⟨rfl, hentry⟩, hallowed⟩

/-- Where it cannot be told whether a path leads anywhere, it counts as leading nowhere. -/
theorem tryExists_getD (t : FileTree) (path : String) :
    (t.tryExists path).toOption.getD false = t.pathExists path := by
  rw [tryExists, pathExists]
  cases t.find path with
  | ok found => rfl
  | error e => cases e <;> rfl

/-! ## Other files -/

/-- The places that are used on a way, from where it starts to where it ends. -/
def visited : List String → List String → List (List String)
  | place, [] => [place]
  | place, c :: cs => place :: visited (step place c) cs

structure SameAt (t u : FileTree) (place : List String) : Prop where
  entry : u.entry? place = t.entry? place
  refusal : ∀ use, u.refusal? place use = t.refusal? place use

/-- The trees have and allow the same on the way of a path. Every question about the path then has
the same answer in both. -/
structure SameOnWay (t u : FileTree) (path : String) : Prop where
  origin : u.origin path = t.origin path
  place : ∀ place ∈ visited (t.origin path) (FilePath.components path), SameAt t u place

theorem settle_mem_visited (place cs : List String) : settle place cs ∈ visited place cs := by
  induction cs generalizing place with
  | nil => exact List.mem_singleton_self place
  | cons c cs ih => exact List.mem_cons_of_mem _ (ih _)

theorem SameAt.allow_eq (h : SameAt t u place) (use : FileUse) :
    u.allow place use = t.allow place use := by
  rw [allow, allow, h.refusal]

theorem SameAt.look_eq (h : SameAt t u place) : u.look place = t.look place := by
  simp only [look, look?, h.allow_eq, h.entry]

theorem SameAt.pass_eq (h : SameAt t u place) (c : String) : u.pass place c = t.pass place c := by
  simp only [pass, enter, h.look_eq, h.allow_eq]

theorem walk_congr (h : ∀ p ∈ visited place cs, SameAt t u p) :
    u.walk place cs = t.walk place cs := by
  induction cs generalizing place with
  | nil => rfl
  | cons c cs ih =>
      obtain ⟨hplace, hrest⟩ := List.forall_mem_cons.mp h
      rw [walk, walk, hplace.pass_eq, ih hrest]

/-- What is elsewhere does not matter for a path. All questions about files go through this one, so
that none of them depends on what is elsewhere. -/
theorem SameOnWay.find_eq (h : SameOnWay t u path) : u.find path = t.find path := by
  simp only [find, h.origin, walk_congr h.place]
  cases hwalk : t.walk (t.origin path) (FilePath.components path) with
  | error e => rfl
  | ok place =>
      obtain rfl := walk_eq_ok hwalk
      have hend := (h.place _ (settle_mem_visited _ _)).look_eq
      simp only [bind, Except.bind, hend]

theorem SameOnWay.read_eq (h : SameOnWay t u path) : u.read path = t.read path := by
  simp only [read, h.find_eq]
  cases hfind : t.find path with
  | error e => rfl
  | ok found =>
      have hfound : t.find path = .ok (found.1, found.2) := hfind
      obtain ⟨-, hwalk, -⟩ := find_eq_ok_iff.mp hfound
      have hplace : found.1 ∈ visited (t.origin path) (FilePath.components path) :=
        walk_eq_ok hwalk ▸ settle_mem_visited _ _
      simp only [bind, Except.bind, (h.place _ hplace).allow_eq]

end FileTree

namespace FilePath

variable {name e : String}

/-- Characters that are no points are passed over in search of one. -/
theorem isPassed_of_notMem {cs : List Char} (h : '.' ∉ cs) : ∀ c ∈ cs, (c != '.') = true := by
  intro c hc
  simpa using fun heq : c = '.' => h (heq ▸ hc)

theorem extensionOf?_of_split {before after : List Char} (hbefore : before ≠ [])
    (hafter : '.' ∉ after) (h : name.toList = before ++ '.' :: after) :
    extensionOf? name = some (String.ofList after) := by
  have hreverse : name.toList.reverse = after.reverse ++ '.' :: before.reverse := by simp [h]
  have hpass := isPassed_of_notMem (mt List.mem_reverse.mp hafter)
  obtain ⟨c, cs, hcs⟩ := List.exists_cons_of_ne_nil (List.reverse_ne_nil_iff.mpr hbefore)
  rw [extensionOf?, hreverse, List.dropWhile_append_of_pos hpass,
    List.takeWhile_append_of_pos hpass, hcs]
  simp

/-- The extension of a name is what stands behind its last point, if there is something before that
point. -/
theorem extensionOf?_eq_some_iff : extensionOf? name = some e ↔
    ∃ stem, name = stem ++ "." ++ e ∧ stem ≠ "" ∧ '.' ∉ e.toList := by
  constructor
  · intro h
    by_cases hmem : '.' ∈ name.toList.reverse
    · obtain ⟨after, before, hsplit, hafter⟩ := List.eq_append_cons_of_mem hmem
      have hname : name.toList = before.reverse ++ '.' :: after.reverse := by
        rw [← List.reverse_reverse name.toList, hsplit]
        simp
      cases before with
      | nil =>
          rw [extensionOf?, hsplit, List.dropWhile_append_of_pos (isPassed_of_notMem hafter)] at h
          simp at h
      | cons c before =>
          rw [extensionOf?_of_split (by simp) (mt List.mem_reverse.mp hafter) hname] at h
          obtain rfl := Option.some.inj h
          refine ⟨String.ofList (c :: before).reverse, ?_, by simp, by simpa using hafter⟩
          rw [← String.toList_inj, hname]
          simp
    · rw [extensionOf?, ← List.append_nil name.toList.reverse,
        List.dropWhile_append_of_pos (isPassed_of_notMem hmem)] at h
      cases h
  · rintro ⟨stem, rfl, hstem, he⟩
    have hne : stem.toList ≠ [] := by simpa using hstem
    rw [extensionOf?_of_split hne he (by simp), String.ofList_toList]

/-- What stands behind the last slash is the name of the file, if it is a name. -/
theorem fileName?_append (directory : String) (h : '/' ∉ name.toList)
    (hname : name ≠ "" ∧ name ≠ "." ∧ name ≠ "..") :
    fileName? (directory ++ "/" ++ name) = some name := by
  have hsplit : (directory ++ "/" ++ name).toList = directory.toList ++ '/' :: name.toList := by
    simp
  have hcomponents : components (directory ++ "/" ++ name) = components directory ++ [name] := by
    rw [components, hsplit, Text.pieces_append_cons, List.map_append, Text.pieces_of_notMem h,
      List.map_singleton, String.ofList_toList]
    rfl
  rw [fileName?, hcomponents, List.filter_append]
  simp only [hname.1, hname.2.1, ne_eq, not_false_eq_true, and_self, decide_true,
    List.filter_cons_of_pos, List.filter_nil, List.getLast?_concat]
  split
  next hup => exact absurd (Option.some.inj hup) hname.2.2
  next => rfl

end FilePath
end StageRelay
