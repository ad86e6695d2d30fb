import StageRelay.Http.Percent
import StageRelay.Text.Split

/-!
# Paths of URLs

A path is cut into segments at its slashes. A segment of one point is dropped, and
one of two points takes the segment before it away, unless that looks like the
letter of a drive. The path of a file may start with such a letter: it is written
with a colon then, and leaves no room for a host. Empty segments at the front of the
path of a file are dropped.
-/

namespace StageRelay

/-- The kinds of schemes, which differ in how their URLs are read. -/
inductive SchemeKind where
  | web
  | file
  /-- A scheme without rules of its own. -/
  | plain
deriving DecidableEq, Repr

namespace SchemeKind

/-- Whether a scheme has rules of its own. -/
def isSpecial (kind : SchemeKind) : Bool := kind ≠ plain

/-- Whether a character separates the segments of a path. In the URLs of schemes with
their own rules a backslash does so too. -/
def isSlash (kind : SchemeKind) (c : Char) : Bool := c == '/' || (kind.isSpecial && c == '\\')

end SchemeKind

inductive UrlPath where
  | segments (names : List String)
  /-- A path that is not divided, after a scheme without slashes. -/
  | verbatim (text : String)
deriving DecidableEq, Repr

namespace UrlPath

def names? : UrlPath → Option (List String)
  | .segments names => some names
  | .verbatim _ => none

def text : UrlPath → String
  | .segments names => String.join (names.map ("/" ++ ·))
  | .verbatim text => text

/-- A path under way: the segments so far, and whether the first one is the letter of
a drive. -/
structure Reading where
  names : List String
  hasDrive : Bool
deriving DecidableEq, Repr

/-- Whether two characters are the letter of a drive and its mark. -/
def isDriveMark (c d : Char) : Bool := c.isAlpha && (d == ':' || d == '|')

def isDrive : List Char → Bool
  | [c, d] => isDriveMark c d
  | _ => false

/-- Whether a segment starts like the letter of a drive, with nothing or a backslash
behind it. Such a segment is not left by going up. -/
def looksLikeDrive (name : String) : Bool :=
  match name.toList with
  | [c, d] => isDriveMark c d
  | c :: d :: e :: _ => isDriveMark c d && e == '\\'
  | _ => false

/-- A segment with every encoded point written as a point. -/
def plainPoints : List Char → List Char
  | '%' :: '2' :: c :: cs =>
    if c = 'e' ∨ c = 'E' then '.' :: plainPoints cs else '%' :: '2' :: c :: plainPoints cs
  | c :: cs => c :: plainPoints cs
  | [] => []

/-- The segments without the last one, as going up leaves them. The letter of a drive is
not taken away. -/
def withoutLast (names : List String) : List String :=
  if names.getLast?.any looksLikeDrive then names else names.dropLast

/-- Takes one more segment into a path; `last` when no other follows. -/
def Reading.add (kind : SchemeKind) (p : Reading) (last : Bool) (segment : List Char) : Reading :=
  let closed := fun names => if last then names ++ [""] else names
  if plainPoints segment = ['.', '.'] then { p with names := closed (withoutLast p.names) }
  else if plainPoints segment = ['.'] then { p with names := closed p.names }
  else if kind = .file ∧ p.names = [] ∧ isDrive segment then
    ⟨[String.ofList (segment.take 1 ++ [':'])], true⟩
  else { p with names := p.names ++ [String.ofList (Percent.encode Percent.path segment)] }

def Reading.addAll (kind : SchemeKind) (p : Reading) : List (List Char) → Reading
  | [] => p
  | [s] => p.add kind true s
  | s :: t :: rest => Reading.addAll kind (p.add kind false s) (t :: rest)

def pieces (kind : SchemeKind) (cs : List Char) : List (List Char) :=
  Text.pieces '/' (if kind.isSpecial then cs.map fun c => if c = '\\' then '/' else c else cs)

/-- Segments as they are at the end of a path. In the path of a file, empty segments at
the start are dropped. -/
def settled (kind : SchemeKind) (names : List String) : List String :=
  if kind = .file then
    match names.dropWhile (· == "") with
    | [] => [""]
    | rest => rest
  else names

/-- Reads the segments of a text after other segments. -/
def continued (kind : SchemeKind) (names : List String) (cs : List Char) : Reading :=
  let p := Reading.addAll kind ⟨names, false⟩ (pieces kind cs)
  { p with names := settled kind p.names }

/-- Reads the segments of a text that follows the first slash of a path. -/
def afterSlash (kind : SchemeKind) (cs : List Char) : Reading := continued kind [] cs

/-- Reads a path after a host. The first slash may be missing; a scheme without rules
of its own may have no path at all. -/
def afterHost (kind : SchemeKind) (cs : List Char) : Reading :=
  match cs with
  | [] => if kind.isSpecial then afterSlash kind [] else ⟨[], false⟩
  | c :: rest => if kind.isSlash c then afterSlash kind rest else afterSlash kind (c :: rest)

end UrlPath

end StageRelay
