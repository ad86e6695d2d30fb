import StageRelay.Json.Parse

/-!
# Values held as text

A value may be held as the text that spells it: an object whose first member has a
certain name stands for the value of the text under that name. Such an object may
have no other member, and the text must spell a value that can be held in its turn.
The text is a document of its own, so its nesting is counted afresh.
-/

namespace StageRelay

namespace Json

/-- The name of the member under which a value is held as text. -/
def embeddedKey : String := "$serde_json::private::RawValue"

/-- The text that the members of an object hold a value by; none when they hold no
value as text, and no text when they should but do not. -/
def embedded? : List (Key × Json) → Option (Option String)
  | (.ok k, v) :: ms =>
    if k = embeddedKey then
      match v, ms with
      | .string text, [] => some (some text)
      | _, _ => some none
    else none
  | _ => none

mutual

/-- A value with those in its place that are held as text; `read` gives the value of
a text. -/
def resolve? (read : String → Option Json) : Json → Option Json
  | .array items => (resolveItems? read items).map .array
  | .object members =>
    match embedded? members with
    | some text => text.bind read
    | none => (resolveMembers? read members).map .object
  | v => some v

def resolveItems? (read : String → Option Json) : List Json → Option (List Json)
  | [] => some []
  | v :: vs => do return (← v.resolve? read) :: (← resolveItems? read vs)

def resolveMembers? (read : String → Option Json) :
    List (Key × Json) → Option (List (Key × Json))
  | [] => some []
  | (k, v) :: ms => do return (k, ← v.resolve? read) :: (← resolveMembers? read ms)

end

/-- The value that a text holds when texts are embedded in each other less than
`limit` times. -/
def heldWithin? : Nat → String → Option Json
  | 0, _ => none
  | limit + 1, text => ((parse? text).filter isSound).bind (resolve? (heldWithin? limit))

/-- The value that a text holds; none when it is not JSON or cannot be held in memory.
An embedded text is shorter than the text around it, so that the limit on embedding is
never reached. -/
def held? (text : String) : Option Json := heldWithin? (text.length + 1) text

end Json

end StageRelay
