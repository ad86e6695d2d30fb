import StageRelay.Config.Issue
import StageRelay.Files.Tree
import StageRelay.Json.Parse
import StageRelay.Schema.Config
import StageRelay.Toml.Parse

/-!
# Where a configuration comes from

Documents are read as TOML when their path has the extension `toml` in any case
of letters, and as JSON otherwise.

The sources of a configuration are tried in a fixed order: a path that is given,
the path in the environment, and two files in a directory below the home
directory. The first source that is there decides; an error in it is the result,
and the sources after it are not looked at. Without any source the default
configuration is taken. A file below the home directory is there if it can be found,
so one that is out of reach is passed over without a word.
-/

namespace StageRelay

inductive DocumentFormat where
  | json
  | toml
deriving DecidableEq, Repr, Inhabited

namespace DocumentFormat

/-- The format of a document at a path. The extension alone decides, in any case of
letters; without one a document is taken for JSON. -/
def ofPath (path : String) : DocumentFormat :=
  match FilePath.extension? path with
  | some e => if Ascii.sameFold e "toml" then .toml else .json
  | none => .json

def name : DocumentFormat → String
  | .json => "json"
  | .toml => "toml"

/-- Reads a text as a type: the text is parsed in its format first, and the document
that it spells is then read by the same schema for both. -/
def read {α : Type} (f : DocumentFormat) (r : Reader α) (text : String) : Except ReadError α :=
  match f with
  | .json =>
    match Json.parse? text with
    | some v => r.document .json v
    | none => .error .malformed
  | .toml =>
    match Toml.parse? text with
    | some v => r.document .toml v
    | none => .error .malformed

end DocumentFormat

structure Environment where
  /-- The path of a configuration, if one is set. -/
  configPath : Option String
  home : Option String
deriving DecidableEq, Repr, Inhabited

namespace Config

def parse (f : DocumentFormat) (origin text : String) : Except ConfigError Config :=
  match f.read Config.schema.read text with
  | .ok c => .ok c
  | .error e => .error (.parse origin e.message)

/-- The files below the home directory, in the order in which they are tried. -/
def homeFiles (home : String) : List String :=
  ["config.json", "config.toml"].map (FilePath.join (FilePath.join home ".apix"))

/-- The path of the configuration when none is given. One that the surroundings name is
taken as it is, while those below the home directory are taken only if they are
found. -/
def discover (files : FileTree) (env : Environment) : Option String :=
  match env.configPath with
  | some path => some path
  | none => env.home.bind fun home => (homeFiles home).find? files.pathExists

/-- Loads the configuration at a path. That it cannot be told whether something is there
counts as nothing being there. -/
def loadFile (files : FileTree) (path : String) : Except ConfigError Config :=
  if (files.tryExists path).toOption.getD false then
    match files.readText path with
    | .ok text => parse (.ofPath path) path text
    | .error e => .error (.io e.message)
  else .error (.invalid s!"config file not found: {path}")

/-- Loads the configuration from the first source that is there. An error on the way is
the result, and no other source is tried after it. -/
def load (files : FileTree) (env : Environment) (given : Option String) :
    Except ConfigError Config :=
  match given.or (discover files env) with
  | some path => loadFile files path
  | none => .ok default

end Config

end StageRelay
