import StageRelay.Schema.Reader

/-!
# Records in documents

A record is described by its fields, in their declared order. Reading starts
from a draft that holds the default of every field and lets each field that the
document gives update it.

A document writes a record as a map from field names, in any order and with
unknown names ignored, or as an array of the fields in their declared order,
where fields at the end may be left out. A field has one name of its own and
maybe others that mean the same; giving a field twice, under any of its names,
is an error.
-/

namespace StageRelay

/-- A field of a record of type `ρ`. -/
structure Field (ρ : Type) where
  name : String
  /-- Other names of the same field. -/
  aliases : List String
  /-- Whether the field has no default. -/
  required : Bool
  /-- Reads the field's value as an update of the draft. -/
  read : Reader (ρ → ρ)

namespace Field

variable {ρ α : Type}

/-- A field with a default, which is what the draft of the record has for it. Leaving it
out changes nothing. -/
def defaulted (name : String) (aliases : List String) (r : Reader α) (set : α → ρ → ρ) : Field ρ :=
  ⟨name, aliases, false, r.map set⟩

def mandatory (name : String) (aliases : List String) (r : Reader α) (set : α → ρ → ρ) : Field ρ :=
  ⟨name, aliases, true, r.map set⟩

/-- Whether a name in a document means this field. -/
def answersTo (f : Field ρ) (key : String) : Bool := key == f.name || f.aliases.contains key

end Field

/-- A type of records: its name in messages, its fields, and the draft that
reading starts from. The draft's value for a required field is never seen. -/
structure Record (ρ : Type) where
  typeName : String
  fields : List (Field ρ)
  draft : ρ

namespace Record

variable {ρ : Type}

/-- A record under way: the draft and the fields given so far. -/
structure Progress (ρ : Type) where
  draft : ρ
  given : List String

/-- Takes one member of a map into the record. A member that answers to no field is
passed over unread, and a field that is given twice is an error. -/
def takeMember (fields : List (Field ρ)) (p : Place) (s : Progress ρ) (k : Key) (v : Json) :
    Except ReadError (Progress ρ) := do
  let key ← k.read
  match fields.find? (·.answersTo key) with
  | none => return s
  | some f =>
    if s.given.contains f.name then .error (.duplicateField f.name)
    else
      let update ← f.read p v
      return ⟨update s.draft, f.name :: s.given⟩

def takeMembers (fields : List (Field ρ)) (p : Place) :
    Progress ρ → List (Key × Json) → Except ReadError (Progress ρ)
  | s, [] => .ok s
  | s, (k, v) :: ms => do takeMembers fields p (← takeMember fields p s k v) ms

def missing? (fields : List (Field ρ)) (given : List String) : Option String :=
  (fields.find? fun f => f.required && !given.contains f.name).map Field.name

/-- The record that the members of a map give. All members are taken before it is asked
whether a required field is missing. -/
def ofMembers (r : Record ρ) (p : Place) (ms : List (Key × Json)) : Except ReadError ρ := do
  let s ← takeMembers r.fields p ⟨r.draft, []⟩ ms
  match missing? r.fields s.given with
  | some name => .error (.missingField name)
  | none => return s.draft

def elements (n : Nat) : String := if n = 1 then "1 element" else s!"{n} elements"

/-- Takes the items of an array into the fields, in order. `whole` describes the
record for an error about its length. -/
def takeItems (whole : String) (p : Place) :
    Nat → List (Field ρ) → ρ → List Json → Except ReadError ρ
  | _, [], s, [] => .ok s
  | _, [], s, _ :: _ => if p.format.surplusItems then .ok s else .error .surplusItems
  | n, f :: fs, s, [] =>
    if f.required then .error (.invalidLength n whole) else takeItems whole p (n + 1) fs s []
  | n, f :: fs, s, v :: vs => do
    let update ← f.read p v
    takeItems whole p (n + 1) fs (update s) vs

def expectation (r : Record ρ) : String := s!"struct {r.typeName}"

/-- Reads the record from a map or an array. -/
def read (r : Record ρ) : Reader ρ
  | p, .object ms => do r.ofMembers (← p.enter) ms
  | p, .array vs => do
    takeItems s!"{r.expectation} with {elements r.fields.length}" (← p.enter) 0 r.fields r.draft vs
  | _, v => Reader.mismatch v r.expectation

end Record

end StageRelay
