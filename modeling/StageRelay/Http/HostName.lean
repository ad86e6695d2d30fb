import StageRelay.Http.Punycode
import StageRelay.Text.Split
import StageRelay.Unicode.Composition
import StageRelay.Unicode.Direction
import StageRelay.Unicode.Joining
import StageRelay.Unicode.NameForm

/-!
# Names of hosts

A name may have characters beyond ASCII. It is brought to one spelling first, by
what its characters stand for and by composing them, and cut into labels. A label
beyond ASCII is written in ASCII behind a marker, and a label that has the marker
already must be the written form of a label in that spelling. No label starts with a
character that attaches to the one before it, joiners stand where they have an effect,
and if any label is written from right to left, each keeps to one direction.
-/

namespace StageRelay.HostName

open Punycode (isAscii)
open Unicode (Direction Joining)

/-- A label of a name: what it shows to a reader, and how it is written in ASCII. -/
structure Label where
  shown : List Char
  written : List Char
deriving DecidableEq, Repr

/-- What stands before the written form of a label beyond ASCII. -/
def marker : List Char := ['x', 'n', '-', '-']

/-- What follows the marker, if a label has it. -/
def afterMarker? (cs : List Char) : Option (List Char) :=
  if marker.isPrefixOf cs then some (cs.drop marker.length) else none

/-- The longest written form that is read, without its marker. Beyond it a label is
refused unread. -/
def maxWritten : Nat := 2000

/-- The longest label that is written. -/
def maxShown : Nat := 1000

/-- Whether characters are in the spelling that names are brought to: no character is to
be replaced, and none can be composed with the next. -/
def isNormal (cs : List Char) : Bool :=
  cs.all (fun c => Unicode.nameForm? c == some [c]) && Unicode.composed cs == cs

/-- The label in a name that is in its one spelling. A label with the marker has to
encode characters in that spelling; any other is encoded itself unless it is ASCII. -/
def Label.ofChars? (cs : List Char) : Option Label :=
  match afterMarker? cs with
  | some code =>
    if cs.all isAscii ∧ cs.getLast? ≠ some '-' ∧ code.length ≤ maxWritten then
      ((Punycode.decode? code).filter isNormal).map (⟨·, cs⟩)
    else none
  | none =>
    if cs.all isAscii then some ⟨cs, cs⟩
    else if cs.length ≤ maxShown then some ⟨cs, marker ++ Punycode.encode cs⟩
    else none

/-- Whether a label can be read: it is ASCII, or starts with a character that stands by
itself and has joiners only where they have an effect. -/
def Label.isLegible (l : Label) : Bool :=
  l.shown.all isAscii ||
    (!l.shown.head?.any Unicode.isMark && Joining.areEffective [] l.shown)

/-- Whether labels keep to one direction each. This matters only for a name in which
some label runs from right to left. -/
def areInOrder (labels : List Label) : Bool :=
  labels.all (·.shown.all isAscii) ||
    (let directions := labels.map (·.shown.map Direction.ofChar)
    !directions.any (·.any Direction.isRightward) || directions.all Direction.areInOrder)

/-- A name in the one spelling, in which two names that are the same look the same.
There is none if a character must not stand in a name. -/
def normal? (cs : List Char) : Option (List Char) :=
  if cs.all isAscii then some (cs.map Char.toLower)
  else (cs.mapM Unicode.nameForm?).map fun forms => Unicode.composed forms.flatten

/-- A name in ASCII, label by label. One label that cannot be read, or runs in two
directions, leaves the whole name without one. -/
def ascii? (cs : List Char) : Option (List Char) := do
  let labels ← (Text.pieces '.' (← normal? cs)).mapM Label.ofChars?
  if labels.all Label.isLegible ∧ areInOrder labels then
    some (List.intercalate ['.'] (labels.map (·.written)))
  else none

end StageRelay.HostName
