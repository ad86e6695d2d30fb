import StageRelay.Schema.Error
import StageRelay.SortedMap

/-!
# Readers

A `Reader α` takes a value of a document and gives an `α` or the first error in
the order of the document. It knows its `Place`: the conventions of the format
and how many containers are open around the value.

The readers here are those of scalars, sequences, maps and named constants;
records are in `StageRelay.Schema.Record`.
-/

namespace StageRelay

/-- What differs between document formats. Readers are the same for all of them, and ask
the place where they read. -/
structure Format where
  /-- The number of nested containers at which reading stops, if any. -/
  depthLimit : Option Nat
  /-- Whether an array may hold more items than the record it is read as. -/
  surplusItems : Bool
  /-- Whether the empty array and the empty map stand for nothing, in place of
  null. -/
  emptyIsNull : Bool
  /-- Whether the tag of a condition inside another one may be given by its index. -/
  innerTagsByIndex : Bool
deriving DecidableEq, Repr

/-- JSON: 128 nested containers are too many. -/
def Format.json : Format := ⟨some 128, false, false, true⟩

/-- TOML: it has no null, and its own limit on nesting. -/
def Format.toml : Format := ⟨none, true, true, false⟩

/-- Where a value stands. -/
structure Place where
  format : Format
  depth : Nat
deriving DecidableEq, Repr

def Place.top (format : Format) : Place := ⟨format, 0⟩

/-- The place inside one more container. Going too deep is an error here, before
anything in the container is read. -/
def Place.enter (p : Place) : Except ReadError Place :=
  match p.format.depthLimit with
  | some limit =>
    if limit ≤ p.depth + 1 then .error .nestedTooDeeply else .ok ⟨p.format, p.depth + 1⟩
  | none => .ok ⟨p.format, p.depth + 1⟩

/-- A function from values of documents to an `α` or an error. It is told the place, as
the format and the depth have a say in what can be read. -/
abbrev Reader (α : Type) := Place → Json → Except ReadError α

/-- The name of a member, if it is sound. -/
def Key.read : Key → Except ReadError String
  | .ok s => .ok s
  | .error f => .error (.fault f)

/-- What a value is, for an error about its type. -/
def Json.found : Json → Except ReadError Found
  | .null => .ok .null
  | .bool b => .ok (.boolean b)
  | .number (.integer n) => .ok (.integer n)
  | .number (.real x) => .ok (.real x)
  | .number (.special name) => .ok (.special name)
  | .string s => .ok (.text s)
  | .array _ => .ok .sequence
  | .object _ => .ok .map
  | .faulty f => .error (.fault f)

namespace Reader

variable {α β : Type}

/-- The error about a value of the wrong type. A value that is faulty has no type, so
that its fault is the error. -/
def mismatch (v : Json) (expected : String) : Except ReadError α := do
  .error (.invalidType (← v.found) expected)

def map (f : α → β) (r : Reader α) : Reader β := fun p v => (r p v).map f

def text : Reader String
  | _, .string s => .ok s
  | _, v => mismatch v "a string"

def path : Reader String
  | _, .string s => .ok s
  | _, v => mismatch v "path string"

def boolean : Reader Bool
  | _, .bool b => .ok b
  | _, v => mismatch v "a boolean"

/-- A natural number below a bound, with the name of its type. A number that is out of
range is told apart from what is no whole number. -/
def natural (name : String) (bound : Nat) : Reader Nat
  | _, .number (.integer n) =>
    if 0 ≤ n ∧ n < bound then .ok n.toNat else .error (.invalidValue (.integer n) name)
  | _, v => mismatch v name

def byte : Reader UInt8 := (natural "u8" UInt8.size).map Nat.toUInt8

def word : Reader UInt16 := (natural "u16" UInt16.size).map Nat.toUInt16

def long : Reader Nat := natural "u64" UInt64.size

def count : Reader Nat := natural "usize" UInt64.size

/-- A value that may be absent, which is written as null. -/
def optional (r : Reader α) : Reader (Option α)
  | _, .null => .ok none
  | p, v => (r p v).map some

def items (r : Reader α) (p : Place) : List Json → Except ReadError (List α)
  | [] => .ok []
  | v :: vs => do
    let a ← r p v
    let as ← items r p vs
    return a :: as

def sequence (r : Reader α) : Reader (List α)
  | p, .array vs => do items r (← p.enter) vs
  | _, v => mismatch v "a sequence"

def entries (r : Reader α) (p : Place) : List (Key × Json) → Except ReadError (List (String × α))
  | [] => .ok []
  | (k, v) :: ms => do
    let k ← k.read
    let a ← r p v
    let es ← entries r p ms
    return (k, a) :: es

/-- A map from texts; the last entry for a key counts. -/
def table (r : Reader α) : Reader (SortedMap String α)
  | p, .object ms => do return SortedMap.ofList (← entries r (← p.enter) ms)
  | _, v => mismatch v "a map"

def unit : Reader Unit
  | ⟨format, _⟩, v =>
    match v with
    | .null => .ok ()
    | .array [] => if format.emptyIsNull then .ok () else mismatch v "unit"
    | .object [] => if format.emptyIsNull then .ok () else mismatch v "unit"
    | v => mismatch v "unit"

def named (names : List (String × α)) (given : String) : Except ReadError α :=
  match names.lookup given with
  | some a => .ok a
  | none => .error (.unknownVariant given (names.map Prod.fst))

/-- A constant: its name, or a map with the name as its only key and nothing
behind it. -/
def constant (names : List (String × α)) : Reader α
  | _, .string s => named names s
  | _, .faulty f =>
    match f with
    | .numberOutOfRange => .error .expectedValue
    | f => .error (.fault f)
  | p, .object ms => do
    let p ← p.enter
    match ms with
    | [] => .error .expectedValue
    | (k, v) :: rest =>
      let a ← named names (← k.read)
      unit p v
      if rest.isEmpty then return a else .error .expectedValue
  | _, _ => .error .expectedValue

def document (r : Reader α) (format : Format) (v : Json) : Except ReadError α :=
  r (Place.top format) v

end Reader

end StageRelay
