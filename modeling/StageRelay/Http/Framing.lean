import StageRelay.Bytes
import StageRelay.Http.Field
import StageRelay.Text.Blank
import StageRelay.Text.Digits
import StageRelay.Text.Split

/-!
# The framing of HTTP messages

A message is a first line, lines with fields, an empty line and a body. The fields
say where the body ends: after a number of bytes, after the last of several chunks
with sizes of their own, or where the connection ends. Bytes arrive one after the
other, so a reader says whether they make a message already, never will, or how
many more it needs at least to say more.
-/

namespace StageRelay.Http

/-- What can be said of the bytes that have arrived. -/
inductive Arrival (α : Type) where
  /-- At least so many bytes are missing. -/
  | waiting (more : Nat)
  /-- No message starts like this. -/
  | broken
  | complete (a : α)
deriving DecidableEq, Repr

namespace Arrival

/-- Goes on with what has arrived completely. Bytes that are missing, or that make no
message, are the end of the matter. -/
def bind {α β : Type} (a : Arrival α) (f : α → Arrival β) : Arrival β :=
  match a with
  | .waiting more => .waiting more
  | .broken => .broken
  | .complete a => f a

instance : Monad Arrival where
  pure := .complete
  bind := .bind

/-- What stands for a value that may be absent when it must not be. -/
def ofOption {α : Type} : Option α → Arrival α
  | some a => .complete a
  | none => .broken

/-- What can be said when nothing more arrives: a message that is not complete by then
is none. -/
def closed {α : Type} : Arrival α → Option α
  | .complete a => some a
  | _ => none

end Arrival

/-- The first line of a message and its fields, with names in lower case. -/
structure Head where
  firstLine : String
  fields : List (String × ByteArray)
deriving DecidableEq

/-- The bytes before the first line end and after it. A line ends with a line feed, with
or without a carriage return before it. -/
def cutLine : List UInt8 → Arrival (List UInt8 × List UInt8)
  | [] => .waiting 1
  | 0x0A :: rest => .complete ([], rest)
  | 0x0D :: 0x0A :: rest => .complete ([], rest)
  | b :: rest => (cutLine rest).bind fun (line, rest) => .complete (b :: line, rest)

def maxFields : Nat := 100

/-- The lines before the first empty one, at most `n`, and what follows it. -/
def cutLines : Nat → List UInt8 → Arrival (List (List UInt8) × List UInt8)
  | 0, _ => .broken
  | n + 1, bytes => do
    let (line, rest) ← cutLine bytes
    if line.isEmpty then .complete ([], rest)
    else
      let (lines, rest) ← cutLines n rest
      .complete (line :: lines, rest)

def isBlankByte (b : UInt8) : Bool := b == 0x20 || b == 0x09

def trimBytes (bytes : List UInt8) : List UInt8 :=
  ((bytes.dropWhile isBlankByte).reverse.dropWhile isBlankByte).reverse

/-- The field on a line. What stands before the first colon has to be a token, so that a
blank before the colon makes the line malformed. -/
def field? (line : List UInt8) : Option (String × ByteArray) := do
  let name ← String.fromUTF8? (line.takeWhile (· != 0x3A)).toByteArray
  let value := (trimBytes ((line.dropWhile (· != 0x3A)).drop 1)).toByteArray
  if isToken name && isFieldValue value then some (Ascii.lower name, value) else none

/-- Reads a head: the first line, and fields up to the first empty line. One line that
is no field spoils the whole head. -/
def readHead (bytes : List UInt8) : Arrival (Head × List UInt8) := do
  let (first, rest) ← cutLine bytes
  let (lines, rest) ← cutLines (maxFields + 1) rest
  let firstLine ← .ofOption (visibleText? first.toByteArray)
  let fields ← .ofOption (lines.mapM field?)
  return (⟨firstLine, fields⟩, rest)

namespace Head

/-- The text of the first field of a name. -/
def text? (h : Head) (name : String) : Option String := (h.fields.lookup name).bind visibleText?

/-- Whether a field lists a word among others that commas separate. The word is compared
without regard to case and to blanks around it. -/
def lists (h : Head) (name word : String) : Bool :=
  ((h.text? name).map fun v => (Text.pieces ',' v.toList).any fun item =>
    Ascii.lower (String.ofList (Text.trimChars item)) == word).getD false

end Head

inductive Framing where
  | sized (length : Nat)
  | chunked
  | untilClosed
deriving DecidableEq, Repr

/-- The framing that fields give, or another one if they give none. Chunks go before a
length, since with them the length says nothing. -/
def Framing.ofHead (h : Head) (otherwise : Framing) : Arrival Framing :=
  if h.lists "transfer-encoding" "chunked" then .complete .chunked
  else
    match h.text? "content-length" with
    | none => .complete otherwise
    | some v => (Arrival.ofOption (Text.number? v.toList)).bind fun n => .complete (.sized n)

def takeBytes (n : Nat) (bytes : List UInt8) : Arrival (List UInt8 × List UInt8) :=
  let first := bytes.take n
  if first.length < n then .waiting (n - first.length) else .complete (first, bytes.drop n)

/-- The size that the line before a chunk gives, in hexadecimal digits. What follows a
semicolon or a blank says something else. -/
def chunkSize? (line : List UInt8) : Option Nat := do
  let text ← visibleText? (line.takeWhile fun b => b != 0x3B && !isBlankByte b).toByteArray
  if text.isEmpty then none
  else text.toList.foldlM (fun n c => (Text.hexDigit? c).map (16 * n + ·)) 0

/-- Reads chunks up to the empty one and the lines that follow it. The fuel bounds the
number of chunks; every chunk takes bytes of its own, so that it does not run out. -/
def readChunks : Nat → List UInt8 → Arrival (List UInt8 × List UInt8)
  | 0, _ => .broken
  | fuel + 1, bytes => do
    let (line, rest) ← cutLine bytes
    match ← .ofOption (chunkSize? line) with
    | 0 =>
      let (_, rest) ← cutLines (maxFields + 1) rest
      return ([], rest)
    | n =>
      let (chunk, rest) ← takeBytes n rest
      let (lineEnd, rest) ← cutLine rest
      if !lineEnd.isEmpty then .broken
      else
        let (chunks, rest) ← readChunks fuel rest
        return (chunk ++ chunks, rest)

/-- Reads a body; `closed` says that nothing more arrives. -/
def Framing.read (closed : Bool) (bytes : List UInt8) : Framing → Arrival (List UInt8 × List UInt8)
  | .sized n => takeBytes n bytes
  | .chunked => readChunks (bytes.length + 1) bytes
  | .untilClosed => if closed then .complete (bytes, []) else .waiting 1

end StageRelay.Http
