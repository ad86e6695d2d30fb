import StageRelay.Decimal.Binary64

/-!
# JSON values

A `Json` value is what a JSON text says, with its members in the order of the
text and repeated names kept. Text can be well formed and still hold a scalar
that denotes nothing: a number beyond the finite range, or a string with half a
surrogate pair. Such a scalar is kept as a `Fault` in its place, so that whoever
needs the scalar finds the fault and whoever skips it does not.
-/

namespace StageRelay

/-- Why a scalar that is well formed as text denotes no value. -/
inductive Fault where
  /-- The number exceeds every finite one. -/
  | numberOutOfRange
  /-- The first half of a surrogate pair is not followed by another escape. -/
  | openSurrogate
  /-- The second half of a surrogate pair stands alone, or the first half is
  followed by an escape that is not a second half. -/
  | straySurrogate
deriving DecidableEq, Repr

/-- A number. An integer that fits in 64 bits, signed or not, is kept as it is; any
other number is a binary fraction, so that the two are told apart after reading. -/
inductive Number where
  | integer (n : Int)
  | real (x : Binary64)
  /-- An infinity or what is not a number, by its name. No JSON text has one. -/
  | special (name : String)
deriving DecidableEq, Repr

/-- The name of a member. It is a fault where its text denotes none, so that a document
can be read around it. -/
abbrev Key := Except Fault String

inductive Json where
  | null
  | bool (b : Bool)
  | number (n : Number)
  | string (s : String)
  | array (items : List Json)
  | object (members : List (Key × Json))
  /-- A scalar that denotes nothing. -/
  | faulty (f : Fault)

instance : Inhabited Json := ⟨.null⟩

namespace Json

def nat (n : Nat) : Json := .number (.integer n)

/-- An object with sound names. -/
def record (members : List (String × Json)) : Json :=
  .object (members.map fun m => (.ok m.1, m.2))

def optional {α : Type} (f : α → Json) : Option α → Json
  | none => .null
  | some a => f a

mutual

/-- The number of containers around the innermost scalar. A scalar by itself has none
around it. -/
def depth : Json → Nat
  | .array items => depthOfItems items + 1
  | .object members => depthOfMembers members + 1
  | _ => 0

def depthOfItems : List Json → Nat
  | [] => 0
  | v :: vs => max v.depth (depthOfItems vs)

def depthOfMembers : List (Key × Json) → Nat
  | [] => 0
  | (_, v) :: ms => max v.depth (depthOfMembers ms)

end

mutual

/-- Whether no scalar and no name anywhere inside is faulty. -/
def faultless : Json → Bool
  | .faulty _ => false
  | .array items => faultlessItems items
  | .object members => faultlessMembers members
  | _ => true

def faultlessItems : List Json → Bool
  | [] => true
  | v :: vs => v.faultless && faultlessItems vs

def faultlessMembers : List (Key × Json) → Bool
  | [] => true
  | (k, v) :: ms => k.isOk && v.faultless && faultlessMembers ms

end

/-- The largest number of nested containers that may be read as a value. -/
def maxDepth : Nat := 127

/-- Whether the whole value can be held in memory: nothing in it is faulty and
it nests no deeper than allowed. -/
def isSound (v : Json) : Bool := v.faultless && decide (v.depth ≤ maxDepth)

theorem faultlessItems_iff {items : List Json} :
    faultlessItems items = true ↔ ∀ v ∈ items, v.faultless = true := by
  induction items with
  | nil => exact iff_of_true rfl (List.forall_mem_nil _)
  | cons v items ih => rw [faultlessItems, Bool.and_eq_true, ih, List.forall_mem_cons]

theorem faultlessMembers_iff {members : List (Key × Json)} :
    faultlessMembers members = true ↔
      ∀ m ∈ members, m.1.isOk = true ∧ m.2.faultless = true := by
  induction members with
  | nil => exact iff_of_true rfl (List.forall_mem_nil _)
  | cons m members ih =>
      rw [faultlessMembers, Bool.and_eq_true, Bool.and_eq_true, ih, List.forall_mem_cons]

theorem depthOfItems_lt_iff {items : List Json} {limit : Nat} (hlimit : 0 < limit) :
    depthOfItems items < limit ↔ ∀ v ∈ items, v.depth < limit := by
  induction items with
  | nil => exact iff_of_true hlimit (List.forall_mem_nil _)
  | cons v items ih => rw [depthOfItems, Nat.max_lt, ih, List.forall_mem_cons]

theorem depthOfMembers_lt_iff {members : List (Key × Json)} {limit : Nat} (hlimit : 0 < limit) :
    depthOfMembers members < limit ↔ ∀ m ∈ members, m.2.depth < limit := by
  induction members with
  | nil => exact iff_of_true hlimit (List.forall_mem_nil _)
  | cons m members ih => rw [depthOfMembers, Nat.max_lt, ih, List.forall_mem_cons]

theorem isSound_iff {v : Json} :
    v.isSound = true ↔ v.faultless = true ∧ v.depth ≤ maxDepth := by
  rw [isSound, Bool.and_eq_true, decide_eq_true_eq]

end Json

end StageRelay
