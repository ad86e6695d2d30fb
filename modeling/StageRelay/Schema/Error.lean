import StageRelay.Decimal.Shortest
import StageRelay.Json.Basic
import StageRelay.Text.Quoted

/-!
# Why a document does not have the expected shape

A `ReadError` is the first thing in a document that does not fit the type it is
read as. Each cause is a constructor; the wording of all of them is in
`ReadError.message`.
-/

namespace StageRelay

/-- What stands in a document where something else was expected. -/
inductive Found where
  | null
  | boolean (b : Bool)
  | integer (n : Int)
  | real (x : Binary64)
  | special (name : String)
  | text (s : String)
  | sequence
  | map
deriving DecidableEq, Repr

/-- Why a key of a routing table is refused. -/
inductive RoutingKeyError where
  /-- The key is neither the wildcard nor a number of 16 bits. -/
  | notAStatus (key : String)
  /-- The number is no status code. -/
  | outOfRange (status : UInt16)
deriving DecidableEq, Repr

inductive ReadError where
  /-- The text is not in the format at all. -/
  | malformed
  | fault (f : Fault)
  | missingField (name : String)
  | duplicateField (name : String)
  | unknownVariant (given : String) (accepted : List String)
  | invalidType (found : Found) (expected : String)
  | invalidValue (found : Found) (expected : String)
  | invalidLength (length : Nat) (expected : String)
  /-- A name of a constant was expected and nothing of the kind was found. -/
  | expectedValue
  /-- An array goes on after the last field it can hold. -/
  | surplusItems
  /-- Containers are nested too deeply. -/
  | nestedTooDeeply
  | routingKey (e : RoutingKeyError)
deriving DecidableEq, Repr

namespace Found

def message : Found → String
  | .null => "null"
  | .boolean b => s!"boolean `{b}`"
  | .integer n => s!"integer `{n}`"
  | .real x => s!"floating point `{x.text}`"
  | .special name => s!"floating point `{name}`"
  | .text s => s!"string {Text.quoted s}"
  | .sequence => "sequence"
  | .map => "map"

end Found

def RoutingKeyError.message : RoutingKeyError → String
  | .notAStatus key => s!"invalid response routing key '{key}'"
  | .outOfRange status => s!"status code {status} out of range 100..=599"

def Fault.message : Fault → String
  | .numberOutOfRange => "number out of range"
  | .openSurrogate => "unexpected end of hex escape"
  | .straySurrogate => "lone leading surrogate in hex escape"

namespace ReadError

/-- Names between grave accents, with commas between them. -/
def quotedNames : List String → String
  | [] => ""
  | [n] => s!"`{n}`"
  | n :: m :: rest => s!"`{n}`, " ++ quotedNames (m :: rest)

def message : ReadError → String
  | .malformed => "malformed JSON"
  | .fault f => f.message
  | .missingField name => s!"missing field `{name}`"
  | .duplicateField name => s!"duplicate field `{name}`"
  | .unknownVariant given accepted =>
    s!"unknown variant `{given}`, expected one of {quotedNames accepted}"
  | .invalidType found expected => s!"invalid type: {found.message}, expected {expected}"
  | .invalidValue found expected => s!"invalid value: {found.message}, expected {expected}"
  | .invalidLength length expected => s!"invalid length {length}, expected {expected}"
  | .expectedValue => "expected value"
  | .surplusItems => "trailing characters"
  | .nestedTooDeeply => "recursion limit exceeded"
  | .routingKey e => e.message

end ReadError

end StageRelay
