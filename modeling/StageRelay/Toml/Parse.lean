import StageRelay.Toml.Lexical
import StageRelay.Toml.Tree

/-!
# Reading TOML documents

A document is a sequence of lines: headers of tables, headers of elements of
arrays of tables, and keys with values. Values may hold further values, up to a
fixed depth. `Toml.parse?` gives the whole document as one object.
-/

namespace StageRelay.Toml

mutual

/-- A value inside `depth` containers. The fuel bounds the number of values; every value
takes at least one character, so that a little more fuel than characters is enough. -/
def value? (depth : Nat) : Nat → Scan Json
  | 0, _ => none
  | fuel + 1, cs =>
    match cs with
    | [] => none
    | '[' :: r => if maxNesting ≤ depth then none else items? (depth + 1) fuel r []
    | '{' :: r =>
      if maxNesting ≤ depth then none
      else
        match skipBlanks r with
        | '}' :: r => some (.object [], r)
        | r => pairs? (depth + 1) fuel r []
    | c :: _ =>
      if c = '"' ∨ c = '\x27' then (string? cs).map fun (s, r) => (.string s, r)
      else if c.isDigit then numberOrDate? cs
      else (constant? cs).or (numberOrDate? cs)

/-- The rest of an array, given the items before, latest first. -/
def items? (depth : Nat) : Nat → List Char → List Json → Option (Json × List Char)
  | 0, _, _ => none
  | fuel + 1, cs, before => do
    match skipFiller false cs with
    | ']' :: r => return (.array before.reverse, r)
    | cs =>
      let (v, r) ← value? depth fuel cs
      match skipFiller false r with
      | ',' :: r => items? depth fuel r (v :: before)
      | ']' :: r => return (.array (v :: before).reverse, r)
      | _ => none

/-- The rest of a table within a line, given the entries before. -/
def pairs? (depth : Nat) : Nat → List Char → Entries → Option (Json × List Char)
  | 0, _, _ => none
  | fuel + 1, cs, before => do
    let ((path, key), r) ← key? cs
    match r with
    | '=' :: r =>
      let (v, r) ← value? depth fuel (skipBlanks r)
      let es ← before.assign path key v
      match skipBlanks r with
      | ',' :: r => pairs? depth fuel r es
      | '}' :: r => return (.object (membersOf es), r)
      | _ => none
    | _ => none

end

/-- One line with something on it, added to what was read before: a header of a table, a
header of an array, or a value under a key. -/
def line? (b : Builder) (cs : List Char) : Option (Builder × List Char) := do
  match cs with
  | '[' :: '[' :: r =>
    let ((path, key), r) ← key? r
    match r with
    | ']' :: ']' :: r => return (← b.element? path key, ← lineEnd? r)
    | _ => none
  | '[' :: r =>
    let ((path, key), r) ← key? r
    match r with
    | ']' :: r => return (← b.table? path key, ← lineEnd? r)
    | _ => none
  | cs =>
    let ((path, key), r) ← key? cs
    match r with
    | '=' :: r =>
      let (v, r) ← value? 0 (r.length + 2) (skipBlanks r)
      return (← b.assign? path key v, ← lineEnd? r)
    | _ => none

/-- The lines of a document. The fuel bounds their number. -/
def lines? : Nat → Builder → List Char → Option Builder
  | 0, _, _ => none
  | fuel + 1, b, cs =>
    match skipBlanks cs with
    | [] => some b
    | '#' :: r => (lineEnd? ('#' :: r)).bind (lines? fuel b)
    | '\n' :: r => lines? fuel b r
    | '\r' :: '\n' :: r => lines? fuel b r
    | cs => (line? b cs).bind fun (b, r) => lines? fuel b r

/-- The object that a document describes; none when the text is not TOML. A byte order
mark at the front is no part of it, and the empty text describes the empty object. -/
def parse? (text : String) : Option Json := do
  let cs :=
    match text.toList with
    | '\ufeff' :: r => r
    | r => r
  let b ← lines? (cs.length + 1) .start cs
  return .object (membersOf (← b.close?))

end StageRelay.Toml
