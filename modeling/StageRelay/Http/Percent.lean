import StageRelay.Text.Digits
import StageRelay.Text.Utf8

/-!
# Percent encoding

A character that must not stand in a part of a URL is written as its UTF-8 bytes,
each as a percent sign and two hexadecimal digits. Which characters these are
depends on the part; controls and characters beyond ASCII are among them
everywhere.
-/

namespace StageRelay.Percent

abbrev Encoded := Char → Bool

/-- Controls and everything beyond ASCII. -/
def controls : Encoded := fun c => c < ' ' || '~' < c

/-- A set with more characters. -/
def Encoded.and (s : Encoded) (more : List Char) : Encoded := fun c => s c || more.contains c

def query : Encoded := Encoded.and controls [' ', '"', '#', '<', '>']

def specialQuery : Encoded := query.and ['\x27']

def fragment : Encoded := Encoded.and controls [' ', '"', '<', '>', '\x60']

def path : Encoded := fragment.and ['#', '?', '{', '}']

def userInfo : Encoded := path.and ['/', ':', ';', '=', '@', '[', '\\', ']', '^', '|']

def encodeByte (b : UInt8) : List Char :=
  ['%', (Nat.digitChar (b.toNat / 16)).toUpper, (Nat.digitChar (b.toNat % 16)).toUpper]

/-- A character, in encoded form if it belongs to the set. -/
def encodeChar (s : Encoded) (c : Char) : List Char :=
  if s c then (String.ofList [c]).toUTF8.data.toList.flatMap encodeByte else [c]

def encode (s : Encoded) (cs : List Char) : List Char := cs.flatMap (encodeChar s)

/-- The bytes that a text in encoded form stands for. A percent sign without two
digits behind it stands for itself. -/
def decodeBytes : List UInt8 → List UInt8
  | [] => []
  | [b] => [b]
  | [b, c] => [b, c]
  | b :: c :: d :: rest =>
    if b = '%'.toNat.toUInt8 then
      match Text.hexDigit? (Char.ofNat c.toNat), Text.hexDigit? (Char.ofNat d.toNat) with
      | some x, some y => (16 * x + y).toUInt8 :: decodeBytes rest
      | _, _ => b :: decodeBytes (c :: d :: rest)
    else b :: decodeBytes (c :: d :: rest)

/-- The text that a text in encoded form stands for. Bytes that are not text are
replaced, so that there always is one. -/
def decode (cs : List Char) : List Char :=
  (Utf8.lossy (decodeBytes (String.ofList cs).toUTF8.data.toList).toByteArray).toList

end StageRelay.Percent
