import StageRelay.Config.Source
import StageRelay.Proofs.Files.Paths

/-!
# Which configuration is loaded

Of the sources of a configuration one decides: the first that is there. What it leads to is the
result, also when that is an error, and no source behind it has any influence. A path that is given
and one that the surroundings name are there in any case, so that it is an error when nothing is at
their ends; the two files below the home directory are there when they can be found.

A file that stands below the home directory but cannot be found, because it is out of reach, does
not decide, although it is the first source that there is. What is loaded then is not what its path
leads to: the error that it could not be reached is lost.
-/

namespace StageRelay

/-! ## Formats -/

/-- The name of the file at a path has the extension `toml`, in any case of letters. A name that is
nothing but the extension has none. -/
def NamesToml (path : String) : Prop :=
  ∃ stem e, FilePath.fileName? path = some (stem ++ "." ++ e) ∧ stem ≠ "" ∧ Ascii.lower e = "toml"

/-- Documents are read as TOML just when the names of their files say so. -/
theorem DocumentFormat.ofPath_eq_toml_iff {path : String} :
    ofPath path = .toml ↔ NamesToml path := by
  have hpoint : ∀ e, Ascii.lower e = "toml" → '.' ∉ e.toList := by
    intro e he hmem
    have hlower : '.' ∈ (Ascii.lower e).toList := by
      rw [Ascii.toList_lower]
      exact List.mem_map.mpr ⟨'.', hmem, rfl⟩
    rw [he] at hlower
    exact absurd hlower (by decide)
  have hextension : ofPath path = .toml ↔
      ∃ e, FilePath.extension? path = some e ∧ Ascii.lower e = "toml" := by
    have htoml : Ascii.lower "toml" = "toml" := by decide
    rw [ofPath]
    cases FilePath.extension? path with
    | none => exact iff_of_false nofun nofun
    | some e =>
        have hfold : Ascii.sameFold e "toml" = true ↔ Ascii.lower e = "toml" := by
          rw [Ascii.sameFold_iff, htoml]
        simp only [Option.some.injEq, exists_eq_left', ← hfold]
        cases Ascii.sameFold e "toml" <;> simp
  rw [hextension]
  constructor
  · rintro ⟨e, he, hlower⟩
    obtain ⟨name, hname, he⟩ := Option.bind_eq_some_iff.mp he
    obtain ⟨stem, rfl, hstem, -⟩ := FilePath.extensionOf?_eq_some_iff.mp he
    exact ⟨stem, e, hname, hstem, hlower⟩
  · rintro ⟨stem, e, hname, hstem, hlower⟩
    refine ⟨e, Option.bind_eq_some_iff.mpr ⟨_, hname, ?_⟩, hlower⟩
    exact FilePath.extensionOf?_eq_some_iff.mpr ⟨stem, rfl, hstem, hpoint e hlower⟩

theorem DocumentFormat.ofPath_eq_json {path : String} (h : ¬ NamesToml path) :
    ofPath path = .json := by
  cases hformat : ofPath path with
  | json => rfl
  | toml => exact absurd (ofPath_eq_toml_iff.mp hformat) h

namespace Config

variable {files files' : FileTree} {env env' : Environment} {given given' : Option String}
variable {path text : String}

/-! ## One file -/

/-- What reading a text as a configuration comes to: the document that it spells in the format that
the name of its file says is read by the schema. -/
inductive ReadsAs (path text : String) (result : Except ReadError Config) : Prop where
  | toml {v : Json} (hname : NamesToml path) (htext : Toml.parse? text = some v)
      (hresult : schema.read.document .toml v = result)
  | json {v : Json} (hname : ¬ NamesToml path) (htext : Json.parse? text = some v)
      (hresult : schema.read.document .json v = result)
  | noToml (hname : NamesToml path) (htext : Toml.parse? text = none)
      (hresult : .error .malformed = result)
  | noJson (hname : ¬ NamesToml path) (htext : Json.parse? text = none)
      (hresult : .error .malformed = result)

theorem readsAs_iff {result : Except ReadError Config} :
    ReadsAs path text result ↔ (DocumentFormat.ofPath path).read schema.read text = result := by
  by_cases hname : NamesToml path
  · rw [DocumentFormat.ofPath_eq_toml_iff.mpr hname]
    constructor
    · rintro (⟨-, htext, rfl⟩ | ⟨hjson, -, -⟩ | ⟨-, htext, rfl⟩ | ⟨hjson, -, -⟩)
      case json | noJson => exact absurd hname hjson
      all_goals simp only [DocumentFormat.read, htext]
    · intro hread
      cases htext : Toml.parse? text with
      | none => exact .noToml hname htext (by simpa only [DocumentFormat.read, htext] using hread)
      | some v => exact .toml hname htext (by simpa only [DocumentFormat.read, htext] using hread)
  · rw [DocumentFormat.ofPath_eq_json hname]
    constructor
    · rintro (⟨htoml, -, -⟩ | ⟨-, htext, rfl⟩ | ⟨htoml, -, -⟩ | ⟨-, htext, rfl⟩)
      case toml | noToml => exact absurd htoml hname
      all_goals simp only [DocumentFormat.read, htext]
    · intro hread
      cases htext : Json.parse? text with
      | none => exact .noJson hname htext (by simpa only [DocumentFormat.read, htext] using hread)
      | some v => exact .json hname htext (by simpa only [DocumentFormat.read, htext] using hread)

/-- What loading the document at a path comes to: an error of the file, an error of the document, or
a configuration. It says for each which it is, and nothing is left out. -/
inductive Outcome (files : FileTree) (path : String) : Except ConfigError Config → Prop where
  | missing (hmissing : files.pathExists path = false) :
      Outcome files path (.error (.invalid ("config file not found: " ++ path)))
  | unreadable {e : FileError} (hthere : files.pathExists path = true)
      (hread : files.readText path = .error e) : Outcome files path (.error (.io e.message))
  | malformed {text : String} {e : ReadError} (hread : files.readText path = .ok text)
      (hreads : ReadsAs path text (.error e)) : Outcome files path (.error (.parse path e.message))
  | loaded {text : String} {c : Config} (hread : files.readText path = .ok text)
      (hreads : ReadsAs path text (.ok c)) : Outcome files path (.ok c)

structure SameFile (files files' : FileTree) (path : String) : Prop where
  pathExists : files'.pathExists path = files.pathExists path
  readText : files'.readText path = files.readText path

theorem sameFile_of_sameOnWay (h : files.SameOnWay files' path) : SameFile files files' path := by
  refine ⟨by rw [FileTree.pathExists, FileTree.pathExists, h.find_eq], ?_⟩
  rw [FileTree.readText, FileTree.readText, h.read_eq]

theorem loadFile_eq (files : FileTree) (path : String) : loadFile files path =
    if files.pathExists path then
      match files.readText path with
      | .ok text => parse (.ofPath path) path text
      | .error e => .error (.io e.message)
    else .error (.invalid ("config file not found: " ++ path)) := by
  rw [loadFile, FileTree.tryExists_getD]
  rfl

theorem loadFile_congr (h : SameFile files files' path) :
    loadFile files' path = loadFile files path := by
  rw [loadFile_eq, loadFile_eq, h.pathExists, h.readText]

theorem loadFile_of_outcome {result : Except ConfigError Config} (h : Outcome files path result) :
    loadFile files path = result := by
  rw [loadFile_eq]
  cases h with
  | missing hmissing =>
      rw [hmissing]
      rfl
  | unreadable hthere hread =>
      rw [if_pos hthere, hread]
  | malformed hread hreads | loaded hread hreads =>
      rw [if_pos (FileTree.readText_eq_ok_iff.mp hread).found, hread]
      simp only [parse, readsAs_iff.mp hreads]

theorem exists_outcome (files : FileTree) (path : String) :
    ∃ result, Outcome files path result := by
  cases hthere : files.pathExists path with
  | false => exact ⟨_, .missing hthere⟩
  | true =>
      cases hread : files.readText path with
      | error e => exact ⟨_, .unreadable hthere hread⟩
      | ok text =>
          cases hparse : (DocumentFormat.ofPath path).read schema.read text with
          | error e => exact ⟨_, .malformed hread (readsAs_iff.mpr hparse)⟩
          | ok c => exact ⟨_, .loaded hread (readsAs_iff.mpr hparse)⟩

theorem loadFile_eq_iff {result : Except ConfigError Config} :
    loadFile files path = result ↔ Outcome files path result := by
  constructor
  · rintro rfl
    obtain ⟨result, h⟩ := exists_outcome files path
    rwa [loadFile_of_outcome h]
  · exact loadFile_of_outcome

/-- Only a file that is not found comes to the error that says so. -/
theorem pathExists_of_loadFile_eq_missing {path' : String}
    (h : loadFile files path = .error (.invalid ("config file not found: " ++ path'))) :
    files.pathExists path = false := by
  rw [loadFile_eq] at h
  split at h
  next =>
    split at h
    next =>
      rw [parse] at h
      split at h <;> cases h
    next => cases h
  next hmissing => exact Bool.eq_false_iff.mpr hmissing

/-! ## The source that decides -/

/-- The sources of a configuration, in order of precedence. A source need not be there: then it has
no path, or nothing is found at it. -/
inductive Source where
  | given
  | environment
  | homeJson
  | homeToml
deriving DecidableEq

def Source.rank : Source → Nat
  | .given => 0
  | .environment => 1
  | .homeJson => 2
  | .homeToml => 3

def homeFile (home name : String) : String := FilePath.join (FilePath.join home ".apix") name

theorem homeFile_eq (home name : String) :
    homeFile home name = FilePath.join home ".apix" ++ "/" ++ name := by
  have hlast : (FilePath.join home ".apix").toList.getLast? = some 'x' := by
    rw [FilePath.join]
    split
    · rfl
    · split <;> simp
  have hne : FilePath.join home ".apix" ≠ "" := by
    intro heq
    rw [heq] at hlast
    cases hlast
  rw [homeFile, FilePath.join, if_neg hne, hlast, if_neg (by decide)]

/-- The files below the home directory are read in the formats that their names say. -/
theorem ofPath_homeFile (home : String) :
    DocumentFormat.ofPath (homeFile home "config.json") = .json ∧
      DocumentFormat.ofPath (homeFile home "config.toml") = .toml := by
  have hname : ∀ name : String, '/' ∉ name.toList → (name ≠ "" ∧ name ≠ "." ∧ name ≠ "..") →
      FilePath.extension? (homeFile home name) = FilePath.extensionOf? name := by
    intro name hslash hne
    rw [FilePath.extension?, homeFile_eq, FilePath.fileName?_append _ hslash hne]
    rfl
  rw [DocumentFormat.ofPath, DocumentFormat.ofPath, hname "config.json" (by decide) (by decide),
    hname "config.toml" (by decide) (by decide)]
  decide

/-- The path of a source, if it has one. -/
def Source.path? (env : Environment) (given : Option String) : Source → Option String
  | .given => given
  | .environment => env.configPath
  | .homeJson => env.home.map (homeFile · "config.json")
  | .homeToml => env.home.map (homeFile · "config.toml")

theorem path?_homeJson {home : String} (h : env.home = some home) (given : Option String) :
    Source.homeJson.path? env given = some (homeFile home "config.json") := by
  rw [Source.path?, h, Option.map_some]

theorem path?_homeToml {home : String} (h : env.home = some home) (given : Option String) :
    Source.homeToml.path? env given = some (homeFile home "config.toml") := by
  rw [Source.path?, h, Option.map_some]

/-- A source is the first one that is there, and has this path. When a file below the home directory
is there is left open, so that being found and standing there can be compared. -/
inductive Decides (there : String → Bool) (env : Environment) :
    Option String → Source → String → Prop where
  | given {path : String} : Decides there env (some path) .given path
  | environment {path : String} (hpath : env.configPath = some path) :
      Decides there env none .environment path
  | homeJson {home : String} (hunset : env.configPath = none) (hhome : env.home = some home)
      (hthere : there (homeFile home "config.json") = true) :
      Decides there env none .homeJson (homeFile home "config.json")
  | homeToml {home : String} (hunset : env.configPath = none) (hhome : env.home = some home)
      (hmissing : there (homeFile home "config.json") = false)
      (hthere : there (homeFile home "config.toml") = true) :
      Decides there env none .homeToml (homeFile home "config.toml")

structure NothingDecides (there : String → Bool) (env : Environment) (given : Option String) :
    Prop where
  given : given = none
  environment : env.configPath = none
  home : ∀ home, env.home = some home → there (homeFile home "config.json") = false ∧
    there (homeFile home "config.toml") = false

/-- Some surroundings are like others as far as a source and those before it are concerned. What
they are like in all other respects does not matter. -/
structure SameUpTo (s : Source) (files files' : FileTree) (env env' : Environment)
    (given given' : Option String) : Prop where
  path : ∀ s' : Source, s'.rank ≤ s.rank → s'.path? env' given' = s'.path? env given
  file : ∀ (s' : Source) path, s'.rank ≤ s.rank → s'.path? env given = some path →
    SameFile files files' path

theorem load_of_decides {s : Source} (h : Decides files.pathExists env given s path) :
    load files env given = loadFile files path := by
  cases h with
  | given => rfl
  | environment hpath => simp [load, discover, hpath]
  | homeJson hunset hhome hthere =>
      rw [homeFile] at hthere
      simp [load, discover, homeFiles, hunset, hhome, hthere, homeFile]
  | homeToml hunset hhome hmissing hthere =>
      rw [homeFile] at hmissing hthere
      simp [load, discover, homeFiles, hunset, hhome, hmissing, hthere, homeFile]

theorem load_of_nothingDecides (h : NothingDecides files.pathExists env given) :
    load files env given = .ok default := by
  obtain ⟨rfl, hunset, hhome⟩ := h
  cases home : env.home with
  | none => simp [load, discover, hunset, home]
  | some home' =>
      obtain ⟨hjson, htoml⟩ := hhome home' home
      rw [homeFile] at hjson htoml
      simp [load, discover, homeFiles, hunset, home, hjson, htoml]

theorem decides_or_nothing (there : String → Bool) (env : Environment) (given : Option String) :
    (∃ s path, Decides there env given s path) ∨ NothingDecides there env given := by
  cases given with
  | some path => exact .inl ⟨_, _, .given⟩
  | none =>
      cases hpath : env.configPath with
      | some path => exact .inl ⟨_, _, .environment hpath⟩
      | none =>
          cases hhome : env.home with
          | none => exact .inr ⟨rfl, hpath, by simp [hhome]⟩
          | some home =>
              cases hjson : there (homeFile home "config.json") with
              | true => exact .inl ⟨_, _, .homeJson hpath hhome hjson⟩
              | false =>
                  cases htoml : there (homeFile home "config.toml") with
                  | true => exact .inl ⟨_, _, .homeToml hpath hhome hjson htoml⟩
                  | false =>
                      refine .inr ⟨rfl, hpath, fun home' hhome' => ?_⟩
                      obtain rfl := Option.some.inj (hhome.symm.trans hhome')
                      exact ⟨hjson, htoml⟩

/-- The source that decides goes on to do so as long as it and those before it stay as they are. -/
theorem Decides.of_sameUpTo {s : Source} (h : Decides files.pathExists env given s path)
    (hsame : SameUpTo s files files' env env' given given') :
    Decides files'.pathExists env' given' s path := by
  obtain ⟨hpath, hfile⟩ := hsame
  cases h with
  | given =>
      have hgiven : given' = some path := hpath .given (by decide)
      rw [hgiven]
      exact .given
  | environment hset =>
      have hgiven : given' = none := hpath .given (by decide)
      rw [hgiven]
      exact .environment ((hpath .environment (by decide)).trans hset)
  | @homeJson home hunset hhome hthere =>
      have hgiven : given' = none := hpath .given (by decide)
      have hunset' := (hpath .environment (by decide)).trans hunset
      have hjson := path?_homeJson hhome none
      obtain ⟨home', hhome', heq⟩ :=
        Option.map_eq_some_iff.mp ((hpath .homeJson (by decide)).trans hjson)
      rw [← (hfile .homeJson _ (by decide) hjson).pathExists, ← heq] at hthere
      rw [hgiven, ← heq]
      exact .homeJson hunset' hhome' hthere
  | @homeToml home hunset hhome hmissing hthere =>
      have hgiven : given' = none := hpath .given (by decide)
      have hunset' := (hpath .environment (by decide)).trans hunset
      have hjson := path?_homeJson hhome none
      have htoml := path?_homeToml hhome none
      obtain ⟨home', hhome', heqJson⟩ :=
        Option.map_eq_some_iff.mp ((hpath .homeJson (by decide)).trans hjson)
      have heqToml := (hpath .homeToml (by decide)).trans htoml
      rw [path?_homeToml hhome', Option.some.injEq] at heqToml
      rw [← (hfile .homeJson _ (by decide) hjson).pathExists, ← heqJson] at hmissing
      rw [← (hfile .homeToml _ (by decide) htoml).pathExists, ← heqToml] at hthere
      rw [hgiven, ← heqToml]
      exact .homeToml hunset' hhome' hmissing hthere

theorem Decides.path_eq {there : String → Bool} {s : Source} (h : Decides there env given s path) :
    s.path? env given = some path := by
  cases h with
  | given => rfl
  | environment hset => exact hset
  | homeJson _ hhome => exact path?_homeJson hhome none
  | homeToml _ hhome => exact path?_homeToml hhome none

/-! ## Files out of reach -/

theorem stands_of_pathExists (h : files.pathExists path = true) : files.stands path = true :=
  (FileTree.pathExists_iff.mp h).1

theorem pathExists_of_not_stands (h : files.stands path = false) : files.pathExists path = false :=
  Bool.eq_false_iff.mpr (mt stands_of_pathExists (Bool.eq_false_iff.mp h))

theorem NothingDecides.of_stands (h : NothingDecides files.stands env given) :
    NothingDecides files.pathExists env given := by
  refine ⟨h.given, h.environment, fun home hhome => ?_⟩
  obtain ⟨hjson, htoml⟩ := h.home home hhome
  exact ⟨pathExists_of_not_stands hjson, pathExists_of_not_stands htoml⟩

/-- Where no path is named, it is no error that there is no file. So that error never comes from the
files below the home directory, which are looked for before they are loaded. -/
theorem load_ne_missing (hunset : env.configPath = none) (path : String) :
    load files env none ≠ .error (.invalid ("config file not found: " ++ path)) := by
  intro hload
  obtain ⟨s, found, h⟩ | h := decides_or_nothing files.pathExists env none
  · rw [load_of_decides h] at hload
    have hmissing := pathExists_of_loadFile_eq_missing hload
    cases h with
    | environment hpath =>
        rw [hunset] at hpath
        cases hpath
    | homeJson _ _ hthere | homeToml _ _ _ hthere =>
        rw [hthere] at hmissing
        cases hmissing
  · rw [load_of_nothingDecides h] at hload
    cases hload

theorem load_ne_of_not_pathExists (hunset : env.configPath = none)
    (hmissing : files.pathExists path = false) : load files env none ≠ loadFile files path := by
  rw [loadFile_of_outcome (.missing hmissing)]
  exact load_ne_missing hunset path

/-- The first source of which a file stands anywhere is the one whose path is loaded, unless it is a
file below the home directory that cannot be found. -/
theorem load_eq_iff_of_stands {s : Source} (h : Decides files.stands env given s path) :
    load files env given = loadFile files path ↔
      s = .given ∨ s = .environment ∨ files.pathExists path = true := by
  cases h with
  | given => exact iff_of_true rfl (.inl rfl)
  | environment hpath =>
      exact iff_of_true (load_of_decides (.environment hpath)) (.inr (.inl rfl))
  | @homeJson home hunset hhome =>
      simp only [reduceCtorEq, false_or]
      cases hfound : files.pathExists (homeFile home "config.json") with
      | true => exact iff_of_true (load_of_decides (.homeJson hunset hhome hfound)) rfl
      | false => exact iff_of_false (load_ne_of_not_pathExists hunset hfound) nofun
  | @homeToml home hunset hhome hmissing =>
      simp only [reduceCtorEq, false_or]
      cases hfound : files.pathExists (homeFile home "config.toml") with
      | true =>
          have hjson := pathExists_of_not_stands hmissing
          exact iff_of_true (load_of_decides (.homeToml hunset hhome hjson hfound)) rfl
      | false => exact iff_of_false (load_ne_of_not_pathExists hunset hfound) nofun

/-- The sources of a configuration are tried in order: a path that is given, one that the
surroundings name, and two files below the home directory. The first of them that is there decides,
and the configuration is the one loaded from its path, or the error that this comes to; no source
behind it has any influence. Where none is there, the configuration is the default. A path that is
given or named is always there, and a file below the home directory if it can be found.

What loading from a path comes to is decided by the file at the path, by nothing that is not on the
way to it. A missing file, one that cannot be read and one that is malformed are errors; the text is
that of a file which stands at the end of the path and may be read. The document is read as TOML
just when the name of its file has the extension `toml` in any case of letters, so that those below
the home directory are read as JSON and as TOML.

A file can be found just when it stands at the end of its path, the path is not too long, and
nothing is refused on the way. If being there meant standing there, the same source would decide
unless it is a file below the home directory that cannot be found. Then what its path comes to, an
error, is not the result. -/
theorem load_by_precedence (files : FileTree) (env : Environment) (given : Option String) :
    (∀ s path, Decides files.pathExists env given s path →
      load files env given = loadFile files path ∧
      ∀ files' env' given', SameUpTo s files files' env env' given given' →
        load files' env' given' = load files env given) ∧
    (NothingDecides files.pathExists env given → load files env given = .ok default) ∧
    ((∃ s path, Decides files.pathExists env given s path) ∨
      NothingDecides files.pathExists env given) ∧
    (∀ path result, loadFile files path = result ↔ Outcome files path result) ∧
    (∀ path text, files.readText path = .ok text ↔ files.HoldsText path text) ∧
    (∀ files' path, files.SameOnWay files' path → SameFile files files' path) ∧
    (∀ path, DocumentFormat.ofPath path = .toml ↔ NamesToml path) ∧
    (∀ home, ¬ NamesToml (homeFile home "config.json") ∧ NamesToml (homeFile home "config.toml")) ∧
    (∀ path, files.pathExists path = true ↔
      files.stands path = true ∧ FilePath.isShort path = true ∧
        files.Allows (files.origin path) (FilePath.components path)) ∧
    (∀ s path, Decides files.stands env given s path →
      (load files env given = loadFile files path ↔
        s = .given ∨ s = .environment ∨ files.pathExists path = true)) ∧
    (NothingDecides files.stands env given → load files env given = .ok default) := by
  refine ⟨fun s path h => ⟨load_of_decides h, ?_⟩, load_of_nothingDecides,
    decides_or_nothing _ env given, fun _ _ => loadFile_eq_iff,
    fun _ _ => FileTree.readText_eq_ok_iff, fun _ _ => sameFile_of_sameOnWay,
    fun _ => DocumentFormat.ofPath_eq_toml_iff, fun home => ?_, fun _ => FileTree.pathExists_iff,
    fun _ _ => load_eq_iff_of_stands, fun h => load_of_nothingDecides h.of_stands⟩
  · intro files' env' given' hsame
    rw [load_of_decides h, load_of_decides (h.of_sameUpTo hsame)]
    exact loadFile_congr (hsame.file s path Nat.le.refl h.path_eq)
  · rw [← DocumentFormat.ofPath_eq_toml_iff, ← DocumentFormat.ofPath_eq_toml_iff,
      (ofPath_homeFile home).1, (ofPath_homeFile home).2]
    exact ⟨nofun, rfl⟩

/-- A configuration below the home directory, in a directory that may not be searched. -/
def outOfReach : FileTree :=
  let text := "\x7b\"gateway\":\x7b\"port\":4321\x7d\x7d"
  (FileTree.empty.put ["home", ".apix", "config.json"] (.file text.toUTF8)).refuse
    ["home", ".apix"] .search .denied

/-- A configuration that is out of reach is passed over, and the default is loaded without a
word. -/
theorem load_outOfReach :
    Decides outOfReach.stands ⟨none, some "/home"⟩ none .homeJson "/home/.apix/config.json" ∧
      load outOfReach ⟨none, some "/home"⟩ none = .ok default ∧
      loadFile outOfReach "/home/.apix/config.json" =
        .error (.invalid "config file not found: /home/.apix/config.json") := by
  have hthere : outOfReach.stands (homeFile "/home" "config.json") = true := by decide +kernel
  exact ⟨.homeJson rfl rfl hthere, rfl, rfl⟩

end Config
end StageRelay
