import StageRelay.Text.Ascii

/-!
# Names and values in HTTP messages

Methods and names of header fields are tokens: one or more visible ASCII
characters without the separators of the message grammar. The value of a field
is any bytes without control characters other than the tab. Of these values,
those of visible ASCII, blanks and tabs can be shown as text.
-/

namespace StageRelay.Http

/-- The characters of tokens that are neither letters nor digits. -/
def tokenMarks : List Char :=
  ['!', '#', '$', '%', '&', '\x27', '*', '+', '-', '.', '^', '_', '\x60', '|', '~']

def isTokenChar (c : Char) : Bool := c.isAlphanum || tokenMarks.contains c

/-- Whether a text is a token, the form that methods and the names of fields have. The
empty text is none. -/
def isToken (s : String) : Bool := s ≠ "" && s.toList.all isTokenChar

def maxFieldNameSize : Nat := 65535

def isFieldName (s : String) : Bool := isToken s && s.utf8ByteSize ≤ maxFieldNameSize

/-- Whether a byte may stand in the value of a field. -/
def isValueByte (b : UInt8) : Bool := b == 0x09 || (0x20 ≤ b && b != 0x7F)

/-- Whether bytes may be the value of a field. Bytes beyond ASCII may, but controls
other than the tab may not, so that no value ends its line. -/
def isFieldValue (v : ByteArray) : Bool := v.data.all isValueByte

/-- Whether a byte is visible ASCII, a blank or a tab. -/
def isVisibleByte (b : UInt8) : Bool := b == 0x09 || (0x20 ≤ b && b < 0x7F)

/-- The value of a field as text, if it can be shown. A value with a byte beyond ASCII
cannot, also when the bytes are text. -/
def visibleText? (v : ByteArray) : Option String :=
  if v.data.all isVisibleByte then String.fromUTF8? v else none

end StageRelay.Http
