import StageRelay.Config.Basic
import StageRelay.Json.Embedded
import StageRelay.Pipeline.Service
import StageRelay.Text.Split

/-!
# The validation service

The service reads a payload as an object of properties and checks each property
that has a rule. The object is the whole payload or, when that has a member
`properties`, what this member holds: an object, or a text that is an object
written as JSON. Only one such wrapper is taken off.

The values of a property are the items of an array, or else the one value that is
there. Properties are checked in ascending order of their names, the types of the
values before their number. A payload that passes is answered with an empty body,
so the run goes on with the payload it had.
-/

namespace StageRelay

/-- Why a payload holds no object of properties. Its own text is told apart from the
text under `properties`. -/
inductive PayloadFault where
  /-- The payload is not JSON, for a reason. -/
  | notJson (reason : String)
  | notAnObject
  /-- The text under `properties` is not JSON, for a reason. -/
  | wrappedNotJson (reason : String)
  /-- The text under `properties` is JSON, but no object. -/
  | wrappedNotAnObject
  /-- What stands under `properties` is neither object nor text. -/
  | wrapperNotReadable
deriving DecidableEq, Repr

inductive ValidationFailure where
  | payload (fault : PayloadFault)
  /-- A value has a type that the rule does not list. -/
  | datatype (property : String) (found : DataType) (allowed : List DataType)
  /-- There are too few or too many values. -/
  | cardinality (property : String) (count : Nat) (bounds : Cardinality)
deriving DecidableEq, Repr

namespace Cardinality

def admits (c : Cardinality) (count : Nat) : Bool := c.min.all (· ≤ count) && c.max.all (count ≤ ·)

def description (c : Cardinality) : String :=
  match c.min, c.max with
  | some min, some max => s!"{min}..={max}"
  | some min, none => s!"at least {min}"
  | none, some max => s!"at most {max}"
  | none, none => ""

end Cardinality

def PayloadFault.message : PayloadFault → String
  | .notJson reason => reason
  | .notAnObject => "expected a JSON object"
  | .wrappedNotJson reason => s!"'properties' is not valid JSON: {reason}"
  | .wrappedNotAnObject => "'properties' does not encode a JSON object"
  | .wrapperNotReadable => "'properties' must be an object or a JSON string"

namespace ValidationFailure

def expected (allowed : List DataType) : String := Text.join ", " (allowed.map DataType.name)

def message : ValidationFailure → String
  | .payload fault => s!"payload is not a property object: {fault.message}"
  | .datatype property found allowed =>
    s!"property '{property}' has a {found.name} value, expected {expected allowed}"
  | .cardinality property count bounds =>
    s!"property '{property}' has {count} values, allowed {bounds.description}"

end ValidationFailure

/-- The type of a value. A number is an integer only if it is kept as one, so that a
whole number written as a fraction, or too large, is a double. -/
def Json.dataType : Json → DataType
  | .null => .null
  | .bool _ => .boolean
  | .number (.integer _) => .integer
  | .number _ => .double
  | .string _ => .string
  | .array _ => .array
  | .object _ => .object
  | .faulty _ => .null

namespace Validation

abbrev Properties := SortedMap String Json

/-- The properties that the members of an object give; the last member of a name
counts. -/
def ofMembers (ms : List (Key × Json)) : Properties :=
  SortedMap.ofList (ms.filterMap fun m => m.1.toOption.map (·, m.2))

def wrapperKey : String := "properties"

/-- The properties under the wrapper, or the root's own without one. The wrapper may
hold them as an object or as the text of one; `explain` gives the reason why a text is
not JSON. -/
def withoutWrapper (explain : ByteArray → String) (root : Properties) :
    Except PayloadFault Properties :=
  match root.get? wrapperKey with
  | none => .ok root
  | some (.object ms) => .ok (ofMembers ms)
  | some (.string text) =>
    match Json.held? text with
    | some (.object ms) => .ok (ofMembers ms)
    | some _ => .error .wrappedNotAnObject
    | none => .error (.wrappedNotJson (explain text.toUTF8))
  | some _ => .error .wrapperNotReadable

/-- The properties that a payload holds. Bytes that are not text are treated like a text
that is not JSON. -/
def properties (explain : ByteArray → String) (payload : ByteArray) :
    Except PayloadFault Properties :=
  match (String.fromUTF8? payload).bind Json.held? with
  | some (.object ms) => withoutWrapper explain (ofMembers ms)
  | some _ => .error .notAnObject
  | none => .error (.notJson (explain payload))

/-- The values of a property: the items of an array, and otherwise the one value. An
array inside an array is a value. -/
def values : Json → List Json
  | .array items => items
  | v => [v]

/-- The first failure of the values of a property under a rule. Types are checked before
the number of values. -/
def checkValues (property : String) (rule : Rule) (vs : List Json) :
    Except ValidationFailure Unit :=
  match rule.types.bind fun allowed =>
      (vs.find? fun v => !allowed.contains v.dataType).map (allowed, ·) with
  | some (allowed, v) => .error (.datatype property v.dataType allowed)
  | none =>
    match rule.cardinality.filter (!·.admits vs.length) with
    | some bounds => .error (.cardinality property vs.length bounds)
    | none => .ok ()

/-- The first failure of some properties, in their order. A property without a rule
passes, and a rule without a property is not asked about. -/
def checkAll (rules : SortedMap String Rule) : List (String × Json) → Except ValidationFailure Unit
  | [] => .ok ()
  | (property, v) :: rest => do
    match rules.get? property with
    | none => checkAll rules rest
    | some rule =>
      checkValues property rule (values v)
      checkAll rules rest

/-- Checks a payload against rules. -/
def validate (explain : ByteArray → String) (rules : SortedMap String Rule) (payload : ByteArray) :
    Except ValidationFailure Unit :=
  match properties explain payload with
  | .ok ps => checkAll rules ps.toList
  | .error fault => .error (.payload fault)

def passStatus : Status := 204

def failStatus : Status := 412

/-- The answer for a payload: nothing when it passes, else the failure in words. -/
def handle (explain : ByteArray → String) (rules : SortedMap String Rule) (payload : ByteArray) :
    Answer :=
  match validate explain rules payload with
  | .ok () => ⟨passStatus, .empty⟩
  | .error failure => ⟨failStatus, failure.message.toUTF8⟩

end Validation

end StageRelay
