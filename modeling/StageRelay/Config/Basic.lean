import StageRelay.Extension
import StageRelay.Route

/-!
# Configurations

A `Config` is everything a gateway is told: where it listens, the limits of a
run, the routes, the extensions, and the services it offers itself. Every part
has a default, so the empty document is a configuration.
-/

namespace StageRelay

structure GatewaySettings where
  host : String
  port : UInt16
  /-- The largest request body that is accepted, in bytes. -/
  maxBodyBytes : Nat
  /-- The origins that browsers may call from; all of them if none is listed. -/
  corsOrigins : List String
deriving DecidableEq, Repr

structure PipelineSettings where
  /-- The time a stage may take, in milliseconds; none and zero mean no limit. -/
  stageTimeoutMs : Option Nat
  /-- The time a run may take, in milliseconds. -/
  deadlineMs : Option Nat
  /-- The status of a run without stages. -/
  emptyQueueStatus : Status
deriving DecidableEq, Repr

inductive DataType where
  | string
  | integer
  | double
  | boolean
  | array
  | object
  | null
deriving DecidableEq, Repr

structure Cardinality where
  min : Option Nat
  max : Option Nat
deriving DecidableEq, Repr, Inhabited

/-- What is required of the values of a property. A part that is left out requires
nothing. -/
structure Rule where
  /-- The types its values may have. -/
  types : Option (List DataType)
  cardinality : Option Cardinality
deriving DecidableEq, Repr, Inhabited

structure ValidationSettings where
  enabled : Bool
  /-- Rules by property. -/
  rules : SortedMap String Rule
deriving DecidableEq, Inhabited

structure StoreSettings where
  enabled : Bool
  path : Option String
deriving DecidableEq, Repr, Inhabited

structure ServiceSettings where
  validation : ValidationSettings
  store : StoreSettings
deriving DecidableEq, Inhabited

structure Config where
  gateway : GatewaySettings
  pipeline : PipelineSettings
  routes : List Route
  extensions : SortedMap String Extension
  services : ServiceSettings

instance : Inhabited GatewaySettings := ⟨⟨"127.0.0.1", 8080, 10485760, []⟩⟩

instance : Inhabited PipelineSettings := ⟨⟨some 30000, none, 200⟩⟩

instance : Inhabited Config := ⟨⟨default, default, [], .empty, default⟩⟩

def GatewaySettings.address (g : GatewaySettings) : String := s!"{g.host}:{g.port}"

namespace PipelineSettings

/-- The time limit of a stage, if there is one. A timeout of zero means that there is
none, like one that is left out. -/
def stageTimeout (s : PipelineSettings) : Option Nat := s.stageTimeoutMs.filter (0 < ·)

end PipelineSettings

namespace DataType

def name : DataType → String
  | .string => "string"
  | .integer => "integer"
  | .double => "double"
  | .boolean => "boolean"
  | .array => "array"
  | .object => "object"
  | .null => "null"

/-- The names that documents may use, in the order in which messages list them. Three of
them name the same type, under which it is then written. -/
def names : List (String × DataType) :=
  [("string", .string), ("integer", .integer), ("double", .double), ("float", .double),
    ("number", .double), ("boolean", .boolean), ("array", .array), ("object", .object),
    ("null", .null)]

end DataType

/-- The name of the store file in the directory for temporary files. -/
def StoreSettings.defaultName : String := "apix_store.out"

/-- The file that the store writes to. One that the settings do not name lies in the
directory for temporary files. -/
def StoreSettings.resolvedPath (s : StoreSettings) (temporary : String) : String :=
  s.path.getD s!"{temporary}/{defaultName}"

/-- The extensions of a configuration, each under its key. A stage finds its extension
here by the name that the route gives it. -/
def Config.registry (c : Config) : Registry := Registry.ofEntries c.extensions.toList

end StageRelay
