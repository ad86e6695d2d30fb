import StageRelay.Bytes
import StageRelay.Files.Path
import StageRelay.SortedMap

/-!
# Trees of files

A `FileTree` is what a program sees of a file system: files with their bytes,
directories, and the directory that relative paths start from. A link stands for what
it leads to. A path is walked component by component; it fails where a component is
missing, or where it goes on after a file.

What stands at a place need not be within reach. A tree says for each place which uses
of it the system refuses: finding out what is there, going on below it, reading it, and
writing to it or making it.
-/

namespace StageRelay

inductive FileEntry where
  | file (content : ByteArray)
  | directory
deriving DecidableEq

instance : Inhabited FileEntry := ⟨.directory⟩

inductive FileError where
  | notFound
  | isDirectory
  | notDirectory
  | denied
  /-- Links lead to links without end. -/
  | tooManyLinks
  /-- The bytes of the file are not text. -/
  | notText
  /-- The path or one of its names is too long. -/
  | tooLong
  /-- The path has a NUL. -/
  | nul
  /-- The system fails, in its own words. -/
  | failed (reason : String)
deriving DecidableEq, Repr

def FileError.message : FileError → String
  | .notFound => "No such file or directory (os error 2)"
  | .isDirectory => "Is a directory (os error 21)"
  | .notDirectory => "Not a directory (os error 20)"
  | .denied => "Permission denied (os error 13)"
  | .tooManyLinks => "Too many levels of symbolic links (os error 40)"
  | .notText => "stream did not contain valid UTF-8"
  | .tooLong => "File name too long (os error 36)"
  | .nul => "file name contained an unexpected NUL byte"
  | .failed reason => reason

/-- What can be done with a place. -/
inductive FileUse where
  /-- Finding out what stands there. -/
  | look
  /-- Going on to what stands below it. -/
  | search
  | read
  /-- Changing what stands there, or making it. -/
  | write
deriving DecidableEq, Repr

/-- Files and directories by their absolute place, and the place that relative
paths start from. A place is written as its names, each behind a slash; the
place of the root is empty, and the root is always a directory. -/
structure FileTree where
  entries : SortedMap String FileEntry
  working : List String
  /-- The error that a use of a place meets, if the system refuses it. -/
  refusal? : List String → FileUse → Option FileError

namespace FileTree

def empty : FileTree := ⟨.empty, [], fun _ _ => none⟩

/-- The text under which the entry of a place is kept. Each name follows a slash, so
that different places have different keys. -/
def key (place : List String) : String := place.foldl (fun k n => k ++ "/" ++ n) ""

/-- What stands at a place, be it within reach or not. -/
def entry? (t : FileTree) (place : List String) : Option FileEntry :=
  if place.isEmpty then some .directory else t.entries.get? (key place)

/-- The tree with an entry at a place, and directories on the way to it where nothing
stands yet. Nothing is refused here, since permission is asked for elsewhere. -/
def put (t : FileTree) (place : List String) (e : FileEntry) : FileTree :=
  let ways := (List.range place.length).filterMap fun n =>
    let way := place.take n
    if way.isEmpty || (t.entry? way).isSome then none else some (key way)
  let entries := ways.foldl (fun m k => m.insert k .directory) t.entries
  { t with entries := entries.insert (key place) e }

/-- The tree in which a use of a place is refused with an error. Everything else is
allowed or refused as before. -/
def refuse (t : FileTree) (place : List String) (use : FileUse) (e : FileError) : FileTree :=
  { t with refusal? := fun p u => if p = place ∧ u = use then some e else t.refusal? p u }

/-- The same files with everything allowed. -/
def openly (t : FileTree) : FileTree := { t with refusal? := fun _ _ => none }

/-! ## Finding -/

/-- Checks that a use of a place is not refused. -/
def allow (t : FileTree) (place : List String) (use : FileUse) : Except FileError Unit :=
  match t.refusal? place use with
  | some e => .error e
  | none => .ok ()

/-- Finds out what stands at a place, if anything does. Not being allowed to look is an
error; finding nothing is an answer. -/
def look? (t : FileTree) (place : List String) : Except FileError (Option FileEntry) := do
  t.allow place .look
  return t.entry? place

def look (t : FileTree) (place : List String) : Except FileError FileEntry := do
  match ← t.look? place with
  | some e => return e
  | none => .error .notFound

/-- Checks that a directory stands at a place. -/
def enter (t : FileTree) (place : List String) : Except FileError Unit := do
  match ← t.look place with
  | .directory => return ()
  | .file _ => .error .notDirectory

/-- Where a component of a path leads from a place. A double point goes up by one, and
stays at the root when it is there already. -/
def step (place : List String) (c : String) : List String :=
  if c = "" ∨ c = "." then place
  else if c = ".." then place.dropLast
  else place ++ [c]

/-- Checks that a component can lead on from a place. An empty one only says that there
is a directory; all others are searched for in it. -/
def pass (t : FileTree) (place : List String) (c : String) : Except FileError Unit := do
  t.enter place
  if c = "" then return () else t.allow place .search

/-- Goes on from a place along components of a path. Each must be allowed to lead on;
what stands at the last place is not looked at. -/
def walk (t : FileTree) (place : List String) : List String → Except FileError (List String)
  | [] => .ok place
  | c :: cs => do
    t.pass place c
    t.walk (step place c) cs

/-- Where the components of a path start from: the root if the path begins with a slash,
and the working directory otherwise. -/
def origin (t : FileTree) (path : String) : List String :=
  if Text.startsWith path "/" then [] else t.working

/-- Checks that a path can lead anywhere at all. These errors are found by looking at
the path alone, whatever files there are. -/
def checkPath (path : String) : Except FileError Unit :=
  if path = "" then .error .notFound
  else if FilePath.hasNul path then .error .nul
  else if FilePath.isShort path then .ok ()
  else .error .tooLong

/-- The place and the entry that a path leads to. Every question about a file begins
here, so that all of them meet the same errors on the way. -/
def find (t : FileTree) (path : String) : Except FileError (List String × FileEntry) := do
  checkPath path
  let place ← t.walk (t.origin path) (FilePath.components path)
  return (place, ← t.look place)

/-- Whether a path leads to anything that can be found. A path that cannot be followed
to its end counts as one that leads nowhere. -/
def pathExists (t : FileTree) (path : String) : Bool := (t.find path).isOk

/-- Whether a path leads to anything, or why this cannot be told. -/
def tryExists (t : FileTree) (path : String) : Except FileError Bool :=
  match t.find path with
  | .ok _ => .ok true
  | .error .notFound => .ok false
  | .error e => .error e

/-- Whether anything stands where a path leads, be it within reach or not. -/
def stands (t : FileTree) (path : String) : Bool :=
  path ≠ "" && !FilePath.hasNul path &&
    (t.openly.walk (t.origin path) (FilePath.components path)).toOption.any
      fun place => (t.entry? place).isSome

/-! ## Reading -/

/-- The bytes of a file. It has to be found and may have to be allowed to be read
besides; a directory has no bytes. -/
def read (t : FileTree) (path : String) : Except FileError ByteArray := do
  let (place, e) ← t.find path
  t.allow place .read
  match e with
  | .file content => return content
  | .directory => .error .isDirectory

/-- The text of a file. Bytes that are not text are an error of their own, and nothing
is put in their place. -/
def readText (t : FileTree) (path : String) : Except FileError String := do
  match String.fromUTF8? (← t.read path) with
  | some text => return text
  | none => .error .notText

/-! ## Adding -/

/-- The tree with a directory at a place where nothing stands. Whatever stands there
already stays, also when it is a file. -/
def makeDirectory (t : FileTree) (place : List String) : Except FileError FileTree := do
  match ← t.look? place with
  | some _ => return t
  | none =>
    t.allow place .write
    return t.put place .directory

/-- Goes on from a place along components of a path, and makes the directories that
are missing on the way, also those that a double point leaves again. -/
def walkMaking (t : FileTree) (place : List String) :
    List String → Except FileError (FileTree × List String)
  | [] => do
    t.enter place
    return (t, place)
  | c :: cs => do
    t.pass place c
    let made ← t.makeDirectory (step place c)
    made.walkMaking (step place c) cs

/-- Whether a component names what stands at a place of its own. -/
def isName (c : String) : Bool := c ≠ "" && c ≠ "." && c ≠ ".."

/-- The tree with text added at the end of a file. The file and the directories
on the way to it are made if they are not there. -/
def append (t : FileTree) (path text : String) : Except FileError FileTree := do
  checkPath path
  let components := FilePath.components path
  let (t, directory) ← t.walkMaking (t.origin path) components.dropLast
  match components.getLast?.filter isName with
  | none => .error .isDirectory
  | some name =>
    t.allow directory .search
    let place := directory ++ [name]
    match ← t.look? place with
    | some .directory => .error .isDirectory
    | some (.file content) =>
      t.allow place .write
      return t.put place (.file (content ++ text.toUTF8))
    | none =>
      t.allow place .write
      return t.put place (.file text.toUTF8)

end FileTree

end StageRelay
