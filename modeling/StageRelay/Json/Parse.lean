import StageRelay.Json.Literal
import StageRelay.Json.Numeral

/-!
# Reading JSON text

A text is read one character at a time by a machine whose state has two parts:
the lexeme under way, and the containers that are open around it. Only the
grammar decides whether a text is accepted; the depth of nesting, the size of
numbers and the pairing of surrogates do not matter here.

`Json.parse?` folds `Parser.step` over the characters. A step never looks ahead:
a bare word (a numeral, `true`, `false` or `null`) ends at the first character
that cannot belong to one.
-/

namespace StageRelay

namespace Json

/-- A container that is open, with what it holds so far, latest first. -/
inductive Frame where
  | array (items : List Json)
  | object (members : List (Key × Json)) (key : Key)

/-- What may come next, between lexemes. -/
inductive Expected where
  /-- A value. -/
  | value
  /-- The first item of an array, or its end. -/
  | firstItem
  /-- The first name in an object, or its end. -/
  | firstKey
  /-- Another name, after a comma. -/
  | key (members : List (Key × Json))
  /-- The colon after a name. -/
  | colon (members : List (Key × Json)) (key : Key)
  /-- A comma or the end of an array. -/
  | nextItem (items : List Json)
  /-- A comma or the end of an object. -/
  | nextMember (members : List (Key × Json))
  /-- Nothing but blanks: the document is complete. -/
  | nothing (document : Json)

/-- The place in the structure of a text: what comes next, and the open
containers, innermost first. -/
structure Position where
  expected : Expected
  frames : List Frame

namespace Position

def start : Position := ⟨.value, []⟩

/-- The place after a complete value inside some containers. The value goes into the
innermost of them, or is the document if there is none. -/
def after (v : Json) : List Frame → Position
  | [] => ⟨.nothing v, []⟩
  | .array items :: frames => ⟨.nextItem (v :: items), frames⟩
  | .object members key :: frames => ⟨.nextMember ((key, v) :: members), frames⟩

def value? (p : Position) (v : Json) : Option Position :=
  match p.expected with
  | .value => some (after v p.frames)
  | .firstItem => some (after v (.array [] :: p.frames))
  | _ => none

/-- A string at this place: the name of a member where one is due, and a value where a
value is. As a name it may be faulty. -/
def string? (p : Position) (s : Key) : Option Position :=
  match p.expected with
  | .firstKey => some ⟨.colon [] s, p.frames⟩
  | .key members => some ⟨.colon members s, p.frames⟩
  | _ =>
    p.value? (match s with
      | .ok s => .string s
      | .error f => .faulty f)

/-- The containers that surround a value at this place. -/
def valueFrames? (p : Position) : Option (List Frame) :=
  match p.expected with
  | .value => some p.frames
  | .firstItem => some (.array [] :: p.frames)
  | _ => none

/-- A structural character at this place. -/
def punctuation? (p : Position) (c : Char) : Option Position :=
  match c with
  | '[' => p.valueFrames?.map fun frames => ⟨.firstItem, frames⟩
  | '{' => p.valueFrames?.map fun frames => ⟨.firstKey, frames⟩
  | ']' =>
    match p.expected with
    | .firstItem => some (after (.array []) p.frames)
    | .nextItem items => some (after (.array items.reverse) p.frames)
    | _ => none
  | '}' =>
    match p.expected with
    | .firstKey => some (after (.object []) p.frames)
    | .nextMember members => some (after (.object members.reverse) p.frames)
    | _ => none
  | ',' =>
    match p.expected with
    | .nextItem items => some ⟨.value, .array items :: p.frames⟩
    | .nextMember members => some ⟨.key members, p.frames⟩
    | _ => none
  | ':' =>
    match p.expected with
    | .colon members key => some ⟨.value, .object members key :: p.frames⟩
    | _ => none
  | _ => none

def document? (p : Position) : Option Json :=
  match p.expected with
  | .nothing v => some v
  | _ => none

end Position

/-- The lexeme under way, latest part first. -/
inductive Lexeme where
  /-- None. -/
  | none
  /-- A word: a numeral or a name of a constant. -/
  | word (cs : List Char)
  /-- The inside of a string. -/
  | string (us : List LiteralUnit)
  /-- Inside a string, after a backslash. -/
  | escape (us : List LiteralUnit)
  /-- Inside a string, in a code of which some digits are read. -/
  | code (us : List LiteralUnit) (digits : List Nat)

def isWordChar (c : Char) : Bool := c.isAlphanum || c == '+' || c == '-' || c == '.'

def isSpace (c : Char) : Bool := c == ' ' || c == '\n' || c == '\r' || c == '\t'

/-- The value that a word denotes. -/
def word? (cs : List Char) : Option Json :=
  if cs = ['n', 'u', 'l', 'l'] then some .null
  else if cs = ['t', 'r', 'u', 'e'] then some (.bool true)
  else if cs = ['f', 'a', 'l', 's', 'e'] then some (.bool false)
  else (Numeral.ofChars? cs).map Numeral.toJson

/-- The reading machine: a place and a lexeme. It takes one character at a time, so that
a text is read in a single pass. -/
structure Parser where
  position : Position
  lexeme : Lexeme

namespace Parser

def start : Parser := ⟨.start, .none⟩

/-- One character outside of all lexemes. It begins a lexeme, is structure by itself, or
is a blank and changes nothing. -/
def between (p : Position) (c : Char) : Option Parser :=
  if isSpace c then some ⟨p, .none⟩
  else if c = '"' then some ⟨p, .string []⟩
  else if isWordChar c then some ⟨p, .word [c]⟩
  else (p.punctuation? c).map fun q => ⟨q, .none⟩

def finishWord (p : Position) (cs : List Char) : Option Position :=
  (word? cs.reverse).bind p.value?

/-- One character. Inside a word it may end the word and count once more for what
follows; inside a string only a quotation mark ends it. -/
def step (m : Parser) (c : Char) : Option Parser :=
  match m.lexeme with
  | .none => between m.position c
  | .word cs =>
    if isWordChar c then some ⟨m.position, .word (c :: cs)⟩
    else (finishWord m.position cs).bind (between · c)
  | .string us =>
    if c = '"' then
      (m.position.string? (LiteralUnit.text us.reverse)).map fun q => ⟨q, .none⟩
    else if c = '\\' then some ⟨m.position, .escape us⟩
    else if c < ' ' then none
    else some ⟨m.position, .string (.char c :: us)⟩
  | .escape us =>
    if c = 'u' then some ⟨m.position, .code us []⟩
    else (LiteralUnit.shortEscape? c).map fun e => ⟨m.position, .string (.char e :: us)⟩
  | .code us digits =>
    (Text.hexDigit? c).map fun d =>
      match digits with
      | [x, y, z] => ⟨m.position, .string (.code (((z * 16 + y) * 16 + x) * 16 + d) :: us)⟩
      | ds => ⟨m.position, .code us (d :: ds)⟩

/-- The document, once the text has ended. A word may end with the text, but a string
may not. -/
def finish (m : Parser) : Option Json :=
  match m.lexeme with
  | .none => m.position.document?
  | .word cs => (finishWord m.position cs).bind Position.document?
  | _ => none

/-- The machine after a run of characters. The first character that has no place where
it stands ends the run without a machine. -/
def run (m : Parser) : List Char → Option Parser
  | [] => some m
  | c :: cs =>
    match m.step c with
    | none => none
    | some m => run m cs

theorem run_append (m : Parser) (cs ds : List Char) :
    m.run (cs ++ ds) = (m.run cs).bind (·.run ds) := by
  induction cs generalizing m with
  | nil => rfl
  | cons c cs ih =>
    simp only [List.cons_append, run]
    cases m.step c with
    | none => rfl
    | some m => exact ih m

end Parser

/-- The value of a text; none when the text is not JSON. It may have faults inside,
which are not found until they are read. -/
def parse? (text : String) : Option Json :=
  (Parser.start.run text.toList).bind Parser.finish

end Json

end StageRelay
