import StageRelay.Json.Basic

/-!
# String literals

Between its quotes a literal is a list of units: characters that stand for
themselves or are written with a short escape, and 16-bit codes written as four
hexadecimal digits. Codes outside the surrogate range are characters; a first
half and a second half of a surrogate pair, written one right after the other,
are one character. Every other use of a surrogate is a fault.
-/

namespace StageRelay

/-- One unit of a string literal: a character, or the code of an escape, which may be
half of a character. -/
inductive LiteralUnit where
  | char (c : Char)
  | code (n : Nat)
deriving DecidableEq, Repr

namespace LiteralUnit

def isFirstHalf (n : Nat) : Bool := 0xD800 ≤ n && n ≤ 0xDBFF

def isSecondHalf (n : Nat) : Bool := 0xDC00 ≤ n && n ≤ 0xDFFF

def pair (first second : Nat) : Char :=
  Char.ofNat (0x10000 + (first - 0xD800) * 0x400 + (second - 0xDC00))

/-- The characters of a literal, or the first fault in it. Codes that are halves of a
pair make a character only next to each other. -/
def decode : List LiteralUnit → Except Fault (List Char)
  | [] => .ok []
  | .char c :: us => (decode us).map (c :: ·)
  | .code n :: us =>
    if isSecondHalf n then .error .straySurrogate
    else if isFirstHalf n then
      match us with
      | .code m :: us =>
        if isSecondHalf m then (decode us).map (pair n m :: ·) else .error .straySurrogate
      | _ => .error .openSurrogate
    else (decode us).map (Char.ofNat n :: ·)

def text (us : List LiteralUnit) : Key := (decode us).map String.ofList

def shortEscape? : Char → Option Char
  | '"' => some '"'
  | '\\' => some '\\'
  | '/' => some '/'
  | 'b' => some '\x08'
  | 'f' => some '\x0c'
  | 'n' => some '\n'
  | 'r' => some '\r'
  | 't' => some '\t'
  | _ => none

end LiteralUnit

end StageRelay
