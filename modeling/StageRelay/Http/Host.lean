import StageRelay.Http.HostName
import StageRelay.Http.Percent

/-!
# Hosts in URLs

A host is a name or an address of 32 or 128 bits. A host whose last label is a
number must be an address; each of its parts may be decimal, octal or
hexadecimal, and the last part fills all the bytes that are left. An address of
128 bits stands between brackets. In URLs of schemes without rules of their own a
host is any text.
-/

namespace StageRelay

inductive Host where
  | domain (name : String)
  | ipv4 (address : Nat)
  | ipv6 (pieces : List Nat)
  /-- A host that is not looked into. -/
  | verbatim (text : String)
deriving DecidableEq, Repr

namespace Host

open Text (pieces)

/-- The number that digits of a base spell; the empty text spells zero. -/
def inBase? (base : Nat) (cs : List Char) : Option Nat :=
  cs.foldlM (fun n c => ((Text.hexDigit? c).filter (· < base)).map (n * base + ·)) 0

/-- A part of a 32-bit address: hexadecimal after `0x`, octal after `0`, else decimal.
Nothing after `0x` spells zero. -/
def ipv4Part? : List Char → Option Nat
  | [] => none
  | '0' :: 'x' :: cs => inBase? 16 cs
  | '0' :: 'X' :: cs => inBase? 16 cs
  | '0' :: c :: cs => inBase? 8 (c :: cs)
  | cs => inBase? 10 cs

/-- The parts between points, without an empty one at the end. -/
def labels (cs : List Char) : List (List Char) :=
  let ps := pieces '.' cs
  if 1 < ps.length ∧ ps.getLast? = some [] then ps.dropLast else ps

/-- Whether the last label is a number. A host that ends so has to be an address, and is
never taken for a name. -/
def endsInNumber (cs : List Char) : Bool :=
  match (labels cs).getLast? with
  | none => false
  | some l => (!l.isEmpty && l.all Char.isDigit) || (ipv4Part? l).isSome

/-- The address of some parts. The last one fills all the bytes that are left, so that
fewer than four parts spell an address too. -/
def ipv4OfParts? : Nat → List Nat → Option Nat
  | _, [] => none
  | width, [n] => if n < Nat.pow 256 width then some n else none
  | width, n :: ns =>
    if n < 256 ∧ 1 < width then
      (ipv4OfParts? (width - 1) ns).map (n * Nat.pow 256 (width - 1) + ·)
    else none

def ipv4? (cs : List Char) : Option Host := do
  return .ipv4 (← ipv4OfParts? 4 (← (labels cs).mapM ipv4Part?))

/-- A byte in decimal digits without leading zeros. -/
def decimalByte? (cs : List Char) : Option Nat :=
  match cs with
  | '0' :: _ :: _ => none
  | cs => (Text.number? cs).filter (· < 256)

/-- The two pieces of a 32-bit address that stands, in decimal parts, at the end of an
address of 128 bits. -/
def embedded? (cs : List Char) : Option (List Nat) := do
  match ← (pieces '.' cs).mapM decimalByte? with
  | [a, b, c, d] => return [256 * a + b, 256 * c + d]
  | _ => none

/-- A piece of a 128-bit address: up to four hexadecimal digits. -/
def ipv6Piece? (cs : List Char) : Option Nat :=
  if cs.isEmpty ∨ 4 < cs.length then none else inBase? 16 cs

/-- Pieces between colons; the last one may be a 32-bit address. -/
def ipv6Pieces? (withEmbedded : Bool) : List (List Char) → Option (List Nat)
  | [] => some []
  | [p] => if withEmbedded ∧ p.contains '.' then embedded? p else (ipv6Piece? p).map ([·])
  | p :: ps => do return (← ipv6Piece? p) :: (← ipv6Pieces? withEmbedded ps)

def ipv6Side? (withEmbedded : Bool) (cs : List Char) : Option (List Nat) :=
  if cs.isEmpty then some [] else ipv6Pieces? withEmbedded (pieces ':' cs)

def cutDoubleColon : List Char → Option (List Char × List Char)
  | ':' :: ':' :: cs => some ([], cs)
  | c :: cs => (cutDoubleColon cs).map fun (a, b) => (c :: a, b)
  | [] => none

/-- The 128-bit address that a text spells. A double colon stands for one or more pieces
that are zero, as many as are missing. -/
def ipv6? (cs : List Char) : Option Host :=
  match cutDoubleColon cs with
  | none => (ipv6Side? true cs).bind fun ps => if ps.length = 8 then some (.ipv6 ps) else none
  | some (a, b) => do
    let before ← ipv6Side? false a
    let after ← ipv6Side? true b
    let given := before.length + after.length
    if given ≤ 7 then return .ipv6 (before ++ List.replicate (8 - given) 0 ++ after) else none

/-- The characters that no host may have. -/
def isForbidden (c : Char) : Bool :=
  c.toNat = 0 || ['\t', '\n', '\r', ' ', '#', '/', ':', '<', '>', '?', '@', '[', '\\', ']', '^',
    '|'].contains c

/-- The characters that no name of a host may have. -/
def isForbiddenInDomain (c : Char) : Bool :=
  isForbidden c || c < ' ' || c == '%' || c == '\x7f'

/-- The host that a text spells. In a URL of a scheme with its own rules it is a name or
an address; in others it is kept as it is written. -/
def ofChars? (special : Bool) (cs : List Char) : Option Host :=
  match cs with
  | '[' :: rest => if rest.getLast? = some ']' then ipv6? rest.dropLast else none
  | cs =>
    if special then
      match HostName.ascii? (Percent.decode cs) with
      | none => none
      | some name =>
        if name.isEmpty || name.any isForbiddenInDomain then none
        else if endsInNumber name then ipv4? name
        else some (.domain (String.ofList name))
    else if cs.any isForbidden then none
    else some (.verbatim (String.ofList (Percent.encode Percent.controls cs)))

/-- The lengths of the runs of zeros that start at each piece. -/
def zeroRuns : List Nat → List Nat
  | [] => []
  | p :: ps =>
    let rest := zeroRuns ps
    (if p = 0 then 1 + rest.headD 0 else 0) :: rest

def piecesText (ps : List Nat) : String :=
  Text.join ":" (ps.map fun p => String.ofList (Nat.toDigits 16 p))

/-- A 128-bit address. The first of its longest runs of two or more zeros is written as
a double colon, so that every address has one text. -/
def ipv6Text (ps : List Nat) : String :=
  let runs := zeroRuns ps
  let longest := runs.foldl max 0
  if longest < 2 then piecesText ps
  else
    let start := runs.findIdx (· == longest)
    piecesText (ps.take start) ++ "::" ++ piecesText (ps.drop (start + longest))

def text : Host → String
  | .domain name => name
  | .ipv4 a => s!"{a / 16777216}.{a / 65536 % 256}.{a / 256 % 256}.{a % 256}"
  | .ipv6 ps => "[" ++ ipv6Text ps ++ "]"
  | .verbatim text => text

end Host

end StageRelay
