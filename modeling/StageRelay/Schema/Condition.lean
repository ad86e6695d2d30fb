import StageRelay.Condition
import StageRelay.Schema.Record

/-!
# Conditions in documents

A condition is a map whose member `type` is the tag, with the fields of that tag
among its other members; or an array of the tag and the fields in their order.

A condition is read in two passes. The first takes its parts in the order of the
document: the tag is looked at where it stands, and everything else is only
checked to be sound and not nested too deeply. The second pass reads the fields
of the tag; nothing in it can be faulty any more. Members that are no field of
the tag are ignored, and a tag without fields ignores all other members.
-/

namespace StageRelay

mutual

/-- Checks that a value can be held in memory. The error is the first fault or the first
container too deep, in the order of the document. -/
def Json.check (p : Place) : Json → Except ReadError Unit
  | .faulty f => .error (.fault f)
  | .array vs => do checkItems (← p.enter) vs
  | .object ms => do checkMembers (← p.enter) ms
  | _ => .ok ()

def Json.checkItems (p : Place) : List Json → Except ReadError Unit
  | [] => .ok ()
  | v :: vs => do
    v.check p
    checkItems p vs

def Json.checkMembers (p : Place) : List (Key × Json) → Except ReadError Unit
  | [] => .ok ()
  | (k, v) :: ms => do
    discard k.read
    v.check p
    checkMembers p ms

end

namespace Condition

/-- The kinds of conditions without conditions inside. -/
inductive Leaf where
  | always
  | never
  | method
  | pathStart
  | pathEquals
  | headerPresent
  | headerEquals
  | hasPayload
  | hasFiles
deriving DecidableEq, Repr

inductive Tag where
  | leaf (l : Leaf)
  | all
  | any
  | not
deriving DecidableEq, Repr

namespace Tag

/-- All kinds by name, in their declared order. The order counts too, since a kind may
be given by its index. -/
def names : List (String × Tag) :=
  [("always", .leaf .always), ("never", .leaf .never), ("method", .leaf .method),
    ("path_prefix", .leaf .pathStart), ("path_equals", .leaf .pathEquals),
    ("header_present", .leaf .headerPresent), ("header_equals", .leaf .headerEquals),
    ("has_payload", .leaf .hasPayload), ("has_files", .leaf .hasFiles), ("all", .all),
    ("any", .any), ("not", .not)]

/-- The tag at an index of the declared order. -/
def ofIndex (n : Nat) : Except ReadError Tag :=
  match names[n]? with
  | some t => .ok t.2
  | none => .error (.invalidValue (.integer n) s!"variant index 0 <= i < {names.length}")

/-- Reads a tag, which may be an index if `byIndex` says so. Nothing but a text or a
number is taken for a tag. -/
def read (byIndex : Bool) : Json → Except ReadError Tag
  | .string s => Reader.named names s
  | .number (.integer n) =>
    if byIndex ∧ 0 ≤ n then ofIndex n.toNat
    else Reader.mismatch (.number (.integer n)) "variant identifier"
  | v => Reader.mismatch v "variant identifier"

end Tag

def tagKey : String := "type"

def operandKey : String := "condition"

def operandsKey : String := "conditions"

def expectation : String := "internally tagged enum Condition"

/-- The tag among the members of a map, wherever it stands. All other members are
checked on the way, so that a fault behind the tag is found too. -/
def tagOfMembers (byIndex : Bool) (p : Place) :
    Option Tag → List (Key × Json) → Except ReadError Tag
  | some t, [] => .ok t
  | none, [] => .error (.missingField tagKey)
  | seen, (k, v) :: ms => do
    let key ← k.read
    if key = tagKey then
      if seen.isSome then .error (.duplicateField tagKey)
      else tagOfMembers byIndex p (some (← Tag.read byIndex v)) ms
    else
      v.check p
      tagOfMembers byIndex p seen ms

/-- The place of parts that have been checked already. No container is too deep there,
since it would have been found before. -/
def checkedPlace : Place := Place.top ⟨none, true, false, false⟩

def variantExpectation (variant : String) (fields : Nat) : String :=
  s!"struct variant Condition::{variant} with {Record.elements fields}"

def tooManyParts (fields parts : Nat) : ReadError :=
  .invalidLength parts s!"{Record.elements fields} in sequence"

/-- How the fields of a tag are given. -/
inductive Parts where
  | members (ms : List (Key × Json))
  | items (vs : List Json)

def bare (c : Condition) : Parts → Except ReadError Condition
  | .members _ => .ok c
  | .items vs => if vs.isEmpty then .ok c else .error (tooManyParts 0 vs.length)

/-- A condition made of a record of fields, which are given as members or, in an array,
as the items behind the tag. -/
def withFields {ρ : Type} (r : Record ρ) (make : ρ → Condition) :
    Parts → Except ReadError Condition
  | .members ms => do return make (← r.ofMembers checkedPlace ms)
  | .items vs => do
    let n := r.fields.length
    let x ← Record.takeItems (variantExpectation r.typeName n) checkedPlace 0 r.fields r.draft vs
    if n < vs.length then .error (tooManyParts n vs.length) else return make x

def textRecord (variant field : String) : Record String :=
  ⟨variant, [Field.mandatory field [] Reader.text fun s _ => s], ""⟩

def methodRecord : Record (List String) :=
  ⟨"Method", [Field.mandatory "methods" [] (Reader.sequence Reader.text) fun l _ => l], []⟩

def headerRecord : Record (String × String) :=
  ⟨"HeaderEquals",
    [Field.mandatory "name" [] Reader.text fun s h => (s, h.2),
      Field.mandatory "value" [] Reader.text fun s h => (h.1, s)], ("", "")⟩

def ofLeaf : Leaf → Parts → Except ReadError Condition
  | .always => bare .always
  | .never => bare .never
  | .hasPayload => bare .hasPayload
  | .hasFiles => bare .hasFiles
  | .method => withFields methodRecord .method
  | .pathStart => withFields (textRecord "PathPrefix" "prefix") .pathStart
  | .pathEquals => withFields (textRecord "PathEquals" "path") .pathEquals
  | .headerPresent => withFields (textRecord "HeaderPresent" "name") .headerPresent
  | .headerEquals => withFields headerRecord fun h => .headerEquals h.1 h.2

mutual

/-- Reads a condition at a place. `byIndex` says whether its tag may be an index,
`inner` whether the tags of the conditions inside may. The two differ at the outside of
a document only. -/
def readAt (byIndex inner : Bool) (p : Place) : Json → Except ReadError Condition
  | .object ms => do
    match ← tagOfMembers byIndex (← p.enter) none ms with
    | .leaf l => ofLeaf l (.members ms)
    | .all => return .all ((← readOperands inner none ms).getD [])
    | .any => return .any ((← readOperands inner none ms).getD [])
    | .not =>
      match ← readOperand inner none ms with
      | some c => return .not c
      | none => .error (.missingField operandKey)
  | .array [] => do
    discard p.enter
    .error (.missingField tagKey)
  | .array (t :: vs) => do
    let p ← p.enter
    let tag ← Tag.read byIndex t
    Json.checkItems p vs
    match tag with
    | .leaf l => ofLeaf l (.items vs)
    | .all => return .all (← readFirstSequence inner vs)
    | .any => return .any (← readFirstSequence inner vs)
    | .not => return .not (← readFirst inner vs)
  | v => Reader.mismatch v expectation

/-- Reads the field of `not` among members. The field may be given once; all members of
other names are passed over. -/
def readOperand (inner : Bool) (seen : Option Condition) :
    List (Key × Json) → Except ReadError (Option Condition)
  | [] => .ok seen
  | (k, v) :: ms => do
    if (← k.read) = operandKey then
      if seen.isSome then .error (.duplicateField operandKey)
      else readOperand inner (some (← readAt inner inner checkedPlace v)) ms
    else readOperand inner seen ms

def readOperands (inner : Bool) (seen : Option (List Condition)) :
    List (Key × Json) → Except ReadError (Option (List Condition))
  | [] => .ok seen
  | (k, v) :: ms => do
    if (← k.read) = operandsKey then
      if seen.isSome then .error (.duplicateField operandsKey)
      else readOperands inner (some (← readSequence inner v)) ms
    else readOperands inner seen ms

def readSequence (inner : Bool) : Json → Except ReadError (List Condition)
  | .array vs => readItems inner vs
  | v => Reader.mismatch v "a sequence"

def readItems (inner : Bool) : List Json → Except ReadError (List Condition)
  | [] => .ok []
  | v :: vs => do
    let c ← readAt inner inner checkedPlace v
    let cs ← readItems inner vs
    return c :: cs

/-- Reads the field of `not` as the only item. -/
def readFirst (inner : Bool) : List Json → Except ReadError Condition
  | [] => .error (.invalidLength 0 (variantExpectation "Not" 1))
  | v :: vs => do
    let c ← readAt inner inner checkedPlace v
    if vs.isEmpty then return c else .error (tooManyParts 1 (vs.length + 1))

/-- Reads the field of `all` and `any` as the only item; it may be left out. -/
def readFirstSequence (inner : Bool) : List Json → Except ReadError (List Condition)
  | [] => .ok []
  | v :: vs => do
    let cs ← readSequence inner v
    if vs.isEmpty then return cs else .error (tooManyParts 1 (vs.length + 1))

end

/-- Reads a condition of a document. Its own tag is a name, and the format says whether
those of the conditions inside may be indices. -/
def reader : Reader Condition := fun p => readAt false p.format.innerTagsByIndex p

end Condition

end StageRelay
