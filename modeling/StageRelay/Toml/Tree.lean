import StageRelay.Json.Basic

/-!
# The tables of a TOML document

A table comes into being in one of three ways: by a header of its own, on the
way to a table that has one, or on the way of a key with points. A header may
name a table of the second kind once more, and a key with points may go through
tables of the last two kinds; every other second definition is an error.
-/

namespace StageRelay.Toml

/-- How a table came into being. It decides what may still be added to the table, and by
what. -/
inductive Origin where
  /-- By a header, or as a table within a line. -/
  | header
  /-- On the way of a header. -/
  | onTheWay
  /-- On the way of a key. -/
  | byKey
deriving DecidableEq, Repr

/-- What a key of a table stands for. -/
inductive Item where
  | value (v : Json)
  | table (origin : Origin) (entries : List (String × Item))
  /-- An array of tables, the latest first. -/
  | tables (elements : List (List (String × Item)))

instance : Inhabited Item := ⟨.value .null⟩

abbrev Entries := List (String × Item)

namespace Entries

def get? (es : Entries) (key : String) : Option Item := es.lookup key

/-- The entries with another item for a key that is there, which keeps its position. -/
def replace (es : Entries) (key : String) (i : Item) : Entries :=
  es.map fun e => if e.1 = key then (key, i) else e

def erase (es : Entries) (key : String) : Entries := es.filter fun e => e.1 ≠ key

/-- Changes the table at the end of a path, making the tables on the way that
are not there. `origin` is how the starting table came into being. Of an array
of tables the latest is meant. -/
def alter {α : Type} (way : Origin) (f : Origin → Entries → Option (α × Entries)) :
    Origin → List String → Entries → Option (α × Entries)
  | origin, [], es => f origin es
  | _, key :: path, es =>
    match es.get? key with
    | none => do
      let (a, sub) ← alter way f way path []
      return (a, es ++ [(key, .table way sub)])
    | some (.table origin sub) => do
      if way = .byKey ∧ origin = .header then none
      else
        let (a, sub) ← alter way f origin path sub
        return (a, es.replace key (.table origin sub))
    | some (.tables (latest :: older)) => do
      let (a, latest) ← alter way f .header path latest
      return (a, es.replace key (.tables (latest :: older)))
    | some (.tables []) => none
    | some (.value _) => none

/-- The entries with a value under a key with points. A key may not be given twice, and
may not add to a table that was made in another way. -/
def assign (es : Entries) (path : List String) (key : String) (v : Json) : Option Entries :=
  (alter .byKey
    (fun origin es =>
      if (origin = .byKey) = path.isEmpty then none
      else if (es.get? key).isSome then none
      else some ((), es ++ [(key, .value v)]))
    .header path es).map Prod.snd

end Entries

mutual

def Item.toJson : Item → Json
  | .value v => v
  | .table _ es => .object (membersOf es)
  | .tables elements => .array (objectsOf elements).reverse

def membersOf : List (String × Item) → List (Key × Json)
  | [] => []
  | (k, i) :: es => (.ok k, i.toJson) :: membersOf es

def objectsOf : List (List (String × Item)) → List Json
  | [] => []
  | es :: rest => .object (membersOf es) :: objectsOf rest

end

/-- The table that headers and keys are added to. Keys go to the table of the latest
header, which joins the others when the next one comes. -/
structure Builder where
  /-- Everything before the latest header. -/
  root : Entries
  /-- The table of the latest header. -/
  current : Entries
  /-- The header: its path, its last key, and whether it adds to an array. -/
  header : Option (List String × String × Bool)

namespace Builder

def start : Builder := ⟨[], [], none⟩

def assign? (b : Builder) (path : List String) (key : String) (v : Json) : Option Builder :=
  (b.current.assign path key v).map fun es => { b with current := es }

/-- Everything so far as one table. The table of the latest header takes its place in
it. -/
def close? (b : Builder) : Option Entries :=
  match b.header with
  | none => some b.current
  | some (path, key, isArray) =>
    (Entries.alter .onTheWay
      (fun _ es =>
        match es.get? key with
        | none =>
          some ((), es ++ [(key, if isArray then .tables [b.current]
            else .table .header b.current)])
        | some (.tables elements) =>
          if isArray then some ((), es.replace key (.tables (b.current :: elements))) else none
        | some _ => none)
      .header path b.root).map Prod.snd

/-- The header of a table. A table that only stood on the way keeps what it
holds. -/
def table? (b : Builder) (path : List String) (key : String) : Option Builder := do
  let root ← b.close?
  let (current, root) ← Entries.alter .onTheWay
    (fun _ es =>
      match es.get? key with
      | none => some ([], es)
      | some (.table .onTheWay sub) => some (sub, es.erase key)
      | some _ => none)
    .header path root
  return ⟨root, current, some (path, key, false)⟩

/-- The header of one more table of an array. -/
def element? (b : Builder) (path : List String) (key : String) : Option Builder := do
  let root ← b.close?
  let (_, root) ← Entries.alter .onTheWay
    (fun _ es =>
      match es.get? key with
      | none => some ((), es ++ [(key, .tables [])])
      | some (.tables _) => some ((), es)
      | some _ => none)
    .header path root
  return ⟨root, [], some (path, key, true)⟩

end Builder

end StageRelay.Toml
