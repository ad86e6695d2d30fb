import StageRelay.Directive
import StageRelay.Schema.Error
import StageRelay.SortedMap
import StageRelay.Text.Blank
import StageRelay.Text.Digits

/-!
# Routing tables

A routing table says what to do with the status that a stage answers: it has
directives for single statuses and maybe one for all others.

In documents a table is a map from keys to directives. A key, without the blanks
around it, is `*` or a decimal number from 100 to 599. `RoutingTable.ofKeys`
takes the keys in ascending order, so of two keys for the same status the greater
one counts, and an error is about the least key that is refused.
-/

namespace StageRelay

/-- Directives by status, with an optional one for statuses that are not listed. So a
table may leave a status without any directive. -/
structure RoutingTable where
  exact : SortedMap Status Directive
  wildcard : Option Directive
deriving DecidableEq

namespace RoutingTable

def empty : RoutingTable := ⟨.empty, none⟩

instance : Inhabited RoutingTable := ⟨empty⟩

def on (t : RoutingTable) (s : Status) (d : Directive) : RoutingTable :=
  { t with exact := t.exact.insert s d }

def otherwise (t : RoutingTable) (d : Directive) : RoutingTable := { t with wildcard := some d }

def get? (t : RoutingTable) (s : Status) : Option Directive := t.exact.get? s

/-- The directive for a status: the one listed, or else the one for all
others. -/
def resolve (t : RoutingTable) (s : Status) : Option Directive := (t.get? s).or t.wildcard

def isEmpty (t : RoutingTable) : Bool := t.exact.isEmpty && t.wildcard.isNone

def wildcardKey : String := "*"

/-- Whether a status may be listed in a document. -/
def isListable (s : Status) : Bool := 100 ≤ s && s ≤ 599

/-- A number of 16 bits: one or more decimal digits, with an optional plus sign before
them. Zeros in front of it do not count. -/
def word? (cs : List Char) : Option Status := (Text.natural? UInt16.size cs).map Nat.toUInt16

/-- What a key stands for: all other statuses (none) or one status. Blanks around it are
dropped, and are also left out of the error about it. -/
def readKey (key : String) : Except RoutingKeyError (Option Status) :=
  let key := Text.trim key
  if key = wildcardKey then .ok none
  else
    match word? key.toList with
    | none => .error (.notAStatus key)
    | some s => if isListable s then .ok (some s) else .error (.outOfRange s)

def addKey (t : RoutingTable) (key : String) (d : Directive) :
    Except RoutingKeyError RoutingTable := do
  match ← readKey key with
  | none => return t.otherwise d
  | some s => return t.on s d

/-- The table with more entries of a document, in order. An entry takes the place of an
earlier one for the same status, and the first key that is refused is the error. -/
def addKeys (t : RoutingTable) : List (String × Directive) → Except RoutingKeyError RoutingTable
  | [] => .ok t
  | (key, d) :: rest => do addKeys (← t.addKey key d) rest

/-- The table that a document describes. Its keys come in the order of their bytes,
which settles what several keys for one status come to. -/
def ofKeys (m : SortedMap String Directive) : Except RoutingKeyError RoutingTable :=
  addKeys empty m.toList

/-- The entries of a table with their keys in a document. Each status is written in one
way, and so are all others. -/
def toKeys (t : RoutingTable) : SortedMap String Directive :=
  SortedMap.ofList ((t.exact.toList.map fun e => (toString e.1, e.2)) ++
    (t.wildcard.map fun d => (wildcardKey, d)).toList)

end RoutingTable

end StageRelay
