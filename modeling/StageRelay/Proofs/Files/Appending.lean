import StageRelay.Proofs.Files.Paths

/-!
# Texts at the end of files

The file that a text is added to can be named before that is done, because a path leads where its
components say. Adding a text makes directories where nothing was, and adds the whole text at the
end of that one file.
-/

namespace StageRelay

namespace FileTree

variable {t u : FileTree} {path text : String} {place place' : List String}

/-- The place of the file that a path names, by the names on the path alone. There is none when the
last component is not a name. -/
def target? (t : FileTree) (path : String) : Option (List String) :=
  ((FilePath.components path).getLast?.filter isName).map fun name =>
    settle (t.origin path) (FilePath.components path).dropLast ++ [name]

/-- The bytes of the file that a path names. A file that is not there yet has none, so that adding
to it can be told in the same way. -/
def content (path : String) (t : FileTree) : ByteArray :=
  match (t.target? path).bind t.entry? with
  | some (.file bytes) => bytes
  | _ => .empty

/-- The trees have the same files, and relative paths start from the same place. -/
structure SameFiles (t u : FileTree) : Prop where
  working : u.working = t.working
  file : ∀ place bytes, u.entry? place = some (.file bytes) ↔ t.entry? place = some (.file bytes)

theorem SameFiles.refl (t : FileTree) : SameFiles t t := ⟨rfl, fun _ _ => .rfl⟩

theorem SameFiles.trans {v : FileTree} (h : SameFiles t u) (h' : SameFiles u v) :
    SameFiles t v :=
  ⟨h'.working.trans h.working, fun place bytes => (h'.file place bytes).trans (h.file place bytes)⟩

/-! ## Making directories -/

def NoFile (m : SortedMap String FileEntry) (k : String) : Prop :=
  ∀ bytes, m.get? k ≠ some (.file bytes)

theorem get?_insert_directory {m : SortedMap String FileEntry} {k : String} (h : NoFile m k)
    (a : String) (bytes : ByteArray) :
    (m.insert k .directory).get? a = some (.file bytes) ↔ m.get? a = some (.file bytes) := by
  by_cases hak : a = k
  · subst hak
    rw [SortedMap.get?_insert_self]
    exact iff_of_false nofun (h bytes)
  · rw [SortedMap.get?_insert_of_ne _ _ hak]

theorem get?_foldl_insert_directory {ks : List String} {m : SortedMap String FileEntry}
    (h : ∀ k ∈ ks, NoFile m k) (a : String) (bytes : ByteArray) :
    (ks.foldl (fun m k => m.insert k .directory) m).get? a = some (.file bytes) ↔
      m.get? a = some (.file bytes) := by
  induction ks generalizing m with
  | nil => exact .rfl
  | cons k ks ih =>
      obtain ⟨hk, hks⟩ := List.forall_mem_cons.mp h
      refine (ih fun k' hk' bytes => ?_).trans (get?_insert_directory hk a bytes)
      exact mt (get?_insert_directory hk k' bytes).mp (hks k' hk' bytes)

/-- The keys of the places on the way to a place at which nothing is. -/
def missingWays (t : FileTree) (place : List String) : List String :=
  (List.range place.length).filterMap fun n =>
    if (place.take n).isEmpty || (t.entry? (place.take n)).isSome then none
    else some (key (place.take n))

theorem entries_put (t : FileTree) (place : List String) (e : FileEntry) :
    (t.put place e).entries =
      ((t.missingWays place).foldl (fun m k => m.insert k .directory) t.entries).insert
        (key place) e := rfl

theorem noFile_of_mem_missingWays {k : String} (hk : k ∈ t.missingWays place) :
    NoFile t.entries k := by
  obtain ⟨n, -, hway⟩ := List.mem_filterMap.mp hk
  split at hway
  next => cases hway
  next hmissing =>
    cases hway
    rw [Bool.or_eq_true, not_or, Option.not_isSome_iff_eq_none, entry?] at hmissing
    rw [if_neg hmissing.1] at hmissing
    intro bytes hfile
    rw [hmissing.2] at hfile
    cases hfile

/-- Whatever is put at a place, all files elsewhere stay. -/
theorem get?_put_of_ne {e : FileEntry} {a : String} (ha : a ≠ key place) (bytes : ByteArray) :
    (t.put place e).entries.get? a = some (.file bytes) ↔
      t.entries.get? a = some (.file bytes) := by
  rw [entries_put, SortedMap.get?_insert_of_ne _ _ ha]
  exact get?_foldl_insert_directory (fun _ => noFile_of_mem_missingWays) a bytes

theorem sameFiles_put_directory (h : t.entry? place = none) :
    SameFiles t (t.put place .directory) := by
  refine ⟨rfl, fun other bytes => ?_⟩
  rw [ entry?, entry?]
  split
  next => exact .rfl
  next =>
    by_cases hkey : key other = key place
    · rw [hkey, entries_put, SortedMap.get?_insert_self]
      rw [ entry?] at h
      split at h
      next => cases h
      next => exact iff_of_false nofun (by rw [h]; nofun)
    · exact get?_put_of_ne hkey bytes

theorem sameFiles_of_makeDirectory (h : t.makeDirectory place = .ok u) : SameFiles t u := by
  rw [makeDirectory, bind_eq_ok_iff] at h
  obtain ⟨found, hlook, h⟩ := h
  obtain ⟨-, hentry⟩ := look?_eq_ok_iff.mp hlook
  split at h
  next =>
    cases h
    exact .refl t
  next =>
    obtain ⟨_, -, h⟩ := bind_eq_ok_iff.mp h
    cases h
    exact sameFiles_put_directory hentry

/-- The directories on a way are made without a change to any file, and the way ends where its
components lead. -/
theorem walkMaking_eq_ok {cs : List String} (h : t.walkMaking place cs = .ok (u, place')) :
    place' = settle place cs ∧ SameFiles t u := by
  induction cs generalizing t place with
  | nil =>
      rw [walkMaking, bind_eq_ok_iff] at h
      obtain ⟨_, -, h⟩ := h
      cases h
      exact ⟨rfl, .refl _⟩
  | cons c cs ih =>
      simp only [walkMaking, bind_eq_ok_iff] at h
      obtain ⟨_, -, made, hmade, h⟩ := h
      obtain ⟨hplace, hfiles⟩ := ih h
      exact ⟨hplace, (sameFiles_of_makeDirectory hmade).trans hfiles⟩

/-! ## Adding a text -/

/-- What is put at the end of a path is what stands there. -/
theorem entry?_put_name (t : FileTree) (directory : List String) (name : String) (e : FileEntry) :
    FileTree.entry? (t.put (directory ++ [name]) e) (directory ++ [name]) = some e := by
  rw [ entry?, if_neg (by simp), entries_put, SortedMap.get?_insert_self]

theorem content_of_file {bytes : ByteArray} (htarget : t.target? path = some place)
    (h : t.entry? place = some (.file bytes)) : content path t = bytes := by
  simp only [content, htarget, Option.bind_some, h]

theorem content_of_noFile (htarget : t.target? path = some place)
    (h : ∀ bytes, t.entry? place ≠ some (.file bytes)) : content path t = .empty := by
  rw [content, htarget, Option.bind_some]
  split
  next bytes hfile => exact absurd hfile (h bytes)
  next => rfl

/-- A path names the same file when only files and directories have changed. -/
theorem target?_put (place' : List String) (e : FileEntry) (path : String) (h : SameFiles t u)
    (htarget : t.target? path = some place) : (u.put place' e).target? path = some place := by
  have hworking : (u.put place' e).working = t.working := h.working
  rw [← htarget, target?, target?, origin, origin, hworking]

/-- A text is added as a whole at the end of the file that the path names, if it is added at all. -/
theorem content_append (h : t.append path text = .ok u) :
    content path u = content path t ++ text.toUTF8 := by
  rw [append, bind_eq_ok_iff] at h
  obtain ⟨_, -, h⟩ := h
  obtain ⟨⟨made, directory⟩, hmade, h⟩ := bind_eq_ok_iff.mp h
  obtain ⟨hplace, hfiles⟩ := walkMaking_eq_ok hmade
  dsimp only at h
  split at h
  next => cases h
  next name hname =>
    have htarget : t.target? path = some (directory ++ [name]) := by
      rw [target?, hname, hplace]
      rfl
    obtain ⟨_, -, h⟩ := bind_eq_ok_iff.mp h
    obtain ⟨found, hlook, h⟩ := bind_eq_ok_iff.mp h
    obtain ⟨-, hentry⟩ := look?_eq_ok_iff.mp hlook
    split at h
    next => cases h
    next bytes =>
      obtain ⟨_, -, h⟩ := bind_eq_ok_iff.mp h
      cases h
      rw [content_of_file htarget ((hfiles.file _ _).mp hentry),
        content_of_file (target?_put _ _ _ hfiles htarget) (entry?_put_name _ _ _ _)]
    next =>
      obtain ⟨_, -, h⟩ := bind_eq_ok_iff.mp h
      cases h
      have hnoFile : ∀ bytes, t.entry? (directory ++ [name]) ≠ some (.file bytes) := by
        intro bytes hfile
        rw [← hfiles.file, hentry] at hfile
        cases hfile
      rw [content_of_noFile htarget hnoFile,
        content_of_file (target?_put _ _ _ hfiles htarget) (entry?_put_name _ _ _ _),
        ByteArray.empty_append]

end FileTree
end StageRelay
