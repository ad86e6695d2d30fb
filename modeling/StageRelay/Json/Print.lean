import StageRelay.Decimal.Shortest
import StageRelay.Json.Basic

/-!
# Writing JSON text

A value is written in one of two layouts: on one line without blanks, or over
several lines with two blanks of indentation for each level. A string is written
with short escapes where they exist, codes of four digits for the other control
characters, and every other character as itself. A faulty scalar has no text; `null` stands in
its place, and an empty name in the place of a faulty one.
-/

namespace StageRelay.Json

def hexChar (n : Nat) : Char := Nat.digitChar n

/-- How one character is written inside a string. -/
def escapeChar (c : Char) : List Char :=
  if c = '"' then ['\\', '"']
  else if c = '\\' then ['\\', '\\']
  else if c = '\n' then ['\\', 'n']
  else if c = '\r' then ['\\', 'r']
  else if c = '\t' then ['\\', 't']
  else if c = '\x08' then ['\\', 'b']
  else if c = '\x0c' then ['\\', 'f']
  else if c < ' ' then
    ['\\', 'u', '0', '0', hexChar (c.toNat / 16), hexChar (c.toNat % 16)]
  else [c]

def literal (s : String) : List Char := '"' :: (s.toList.flatMap escapeChar ++ ['"'])

def keyLiteral : Key → List Char
  | .ok s => literal s
  | .error _ => literal ""

/-- The text of a number: an integer in decimal digits, and a fraction in the fewest
digits that read back as the same fraction. -/
def numberText : Number → List Char
  | .integer n => if n < 0 then '-' :: Nat.toDigits 10 n.natAbs else Nat.toDigits 10 n.natAbs
  | .real x => x.text.toList
  | .special name => name.toList

/-- How a container is laid out: what separates items, what follows a colon, and
what stands before the first and after the last item at a level. -/
structure Layout where
  newline : Nat → List Char
  afterColon : List Char

/-- Everything on one line without blanks. -/
def Layout.compact : Layout := ⟨fun _ => [], []⟩

/-- One item a line, indented by two blanks for each level. -/
def Layout.indented : Layout :=
  ⟨fun level => '\n' :: List.replicate (2 * level) ' ', [' ']⟩

mutual

/-- The text of a value whose line is indented to `level`. Empty containers take no line
of their own in any layout. -/
def write (layout : Layout) (level : Nat) : Json → List Char
  | .null => "null".toList
  | .bool b => (if b then "true" else "false").toList
  | .number n => numberText n
  | .string s => literal s
  | .array [] => ['[', ']']
  | .array (v :: vs) =>
    '[' :: (layout.newline (level + 1) ++ write layout (level + 1) v
      ++ writeItems layout (level + 1) vs ++ layout.newline level ++ [']'])
  | .object [] => ['{', '}']
  | .object ((k, v) :: ms) =>
    '{' :: (layout.newline (level + 1) ++ keyLiteral k ++ ':' :: layout.afterColon
      ++ write layout (level + 1) v
      ++ writeMembers layout (level + 1) ms ++ layout.newline level ++ ['}'])
  | .faulty _ => "null".toList

/-- The items after the first, each behind a comma. -/
def writeItems (layout : Layout) (level : Nat) : List Json → List Char
  | [] => []
  | v :: vs =>
    ',' :: (layout.newline level ++ write layout level v ++ writeItems layout level vs)

/-- The members after the first, each behind a comma. -/
def writeMembers (layout : Layout) (level : Nat) : List (Key × Json) → List Char
  | [] => []
  | (k, v) :: ms =>
    ',' :: (layout.newline level ++ keyLiteral k ++ ':' :: layout.afterColon
      ++ write layout level v ++ writeMembers layout level ms)

end

def compact (v : Json) : String := String.ofList (write .compact 0 v)

def pretty (v : Json) : String := String.ofList (write .indented 0 v)

end StageRelay.Json
