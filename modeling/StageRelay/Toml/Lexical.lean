import StageRelay.Json.Basic
import StageRelay.Text.Digits

/-!
# TOML lexemes

Blanks, comments, line ends, keys, strings, numbers and dates. Each function
takes a lexeme from the front of a text and returns the rest, or nothing when
the text does not start with a legal one.

Dates and times are checked for their ranges. A reader meets one as a map with a
single entry, its text under `dateTimeKey`.
-/

namespace StageRelay.Toml

/-- A function that takes something from the front of a text, and gives what is left of
the text. -/
abbrev Scan (α : Type) := List Char → Option (α × List Char)

/-- Blanks within a line. -/
def isBlank (c : Char) : Bool := c == ' ' || c == '\t'

/-- Whether a character is visible or a blank: anything but a control. -/
def isPlain (c : Char) : Bool := c == '\t' || (' ' ≤ c && c != '\x7f')

def skipBlanks (cs : List Char) : List Char := cs.dropWhile isBlank

def newline? : List Char → Option (List Char)
  | '\n' :: r => some r
  | '\r' :: '\n' :: r => some r
  | _ => none

def skipComment : List Char → List Char
  | '#' :: r => r.dropWhile isPlain
  | r => r

/-- The text after the end of a line that holds nothing more but blanks and a
comment. -/
def lineEnd? (cs : List Char) : Option (List Char) :=
  match skipComment (skipBlanks cs) with
  | [] => some []
  | r => newline? r

/-- The text after blanks, comments and line ends; `comment` says whether a
comment has begun on this line. -/
def skipFiller (comment : Bool) : List Char → List Char
  | '\n' :: r => skipFiller false r
  | '\r' :: '\n' :: r => skipFiller false r
  | c :: r =>
    if comment then if isPlain c then skipFiller true r else c :: r
    else if isBlank c then skipFiller false r
    else if c = '#' then skipFiller true r
    else c :: r
  | [] => []

/-- The character with a code, written in hexadecimal digits. Half of a pair and numbers
beyond the last code are no characters. -/
def scalar? (ds : List Char) : Option Char := do
  let n ← ds.foldlM (fun n c => (Text.hexDigit? c).map fun d => n * 16 + d) 0
  if h : n.isValidChar then some (Char.ofNatAux n h) else none

def shortEscape? : Char → Option Char
  | 'b' => some '\x08'
  | 't' => some '\t'
  | 'n' => some '\n'
  | 'f' => some '\x0c'
  | 'r' => some '\r'
  | '"' => some '"'
  | '\\' => some '\\'
  | _ => none

/-- The character of an escape, after its backslash. -/
def escape? : Scan Char
  | 'u' :: a :: b :: c :: d :: r => (scalar? [a, b, c, d]).map fun x => (x, r)
  | 'U' :: a :: b :: c :: d :: e :: f :: g :: h :: r =>
    (scalar? [a, b, c, d, e, f, g, h]).map fun x => (x, r)
  | c :: r => (shortEscape? c).map fun x => (x, r)
  | [] => none

/-- An escape is not empty. -/
theorem length_lt_of_escape? {cs r : List Char} {c : Char} (h : escape? cs = some (c, r)) :
    r.length < cs.length := by
  unfold escape? at h
  split at h <;> simp only [Option.map_eq_some_iff, Prod.mk.injEq, reduceCtorEq] at h <;>
    obtain ⟨_, _, _, rfl⟩ := h <;> simp only [List.length_cons] <;> omega

/-- The rest of a string in double quotes. -/
def basicBody? : Scan (List Char)
  | [] => none
  | '"' :: r => some ([], r)
  | '\\' :: r =>
    match h : escape? r with
    | none => none
    | some (c, rest) =>
      have := length_lt_of_escape? h
      (basicBody? rest).map fun (cs, r) => (c :: cs, r)
  | c :: r =>
    if isPlain c then (basicBody? r).map fun (cs, r) => (c :: cs, r) else none
termination_by cs => cs.length
decreasing_by all_goals simp; try omega

/-- The rest of a string in single quotes. Nothing in it is an escape, so that it ends
at the next single quote. -/
def literalBody? : Scan (List Char) := fun cs =>
  match cs.dropWhile (fun c => isPlain c && c != '\x27') with
  | '\x27' :: r => some (cs.takeWhile fun c => isPlain c && c != '\x27', r)
  | _ => none

/-- The text after blanks and line ends. -/
def skipBlankLines : List Char → List Char
  | '\r' :: '\n' :: r => skipBlankLines r
  | c :: r => if isBlank c || c == '\n' then skipBlankLines r else c :: r
  | [] => []

/-- The text after a backslash that ends a line, and the blanks and line ends
behind it. -/
def foldedLine? (cs : List Char) : Option (List Char) :=
  (newline? (skipBlanks cs)).map skipBlankLines

/-- The rest of a string in a given quote that is written three times on either side. Up
to two more quotes may stand before the closing ones, and belong to the string. -/
def longBody? (quote : Char) (escapes : Bool) : Nat → Scan (List Char)
  | 0, _ => none
  | _ + 1, [] => none
  | fuel + 1, c :: r =>
    if c = quote then
      let more := r.takeWhile (· == quote)
      let n := more.length + 1
      if n < 3 then do
        let (cs, r) ← longBody? quote escapes fuel r
        return (c :: cs, r)
      else if n ≤ 5 then some (List.replicate (n - 3) quote, r.drop (n - 1))
      else none
    else if c = '\\' ∧ escapes then
      match foldedLine? r with
      | some r => longBody? quote escapes fuel r
      | none => do
        let (c, r) ← escape? r
        let (cs, r) ← longBody? quote escapes fuel r
        return (c :: cs, r)
    else
      match newline? (c :: r) with
      | some r => do
        let (cs, r) ← longBody? quote escapes fuel r
        return ('\n' :: cs, r)
      | none =>
        if !isPlain c then none
        else do
          let (cs, r) ← longBody? quote escapes fuel r
          return (c :: cs, r)

/-- A string with three quotes on either side, without the line end that may
follow the opening ones. -/
def long? (quote : Char) (escapes : Bool) (cs : List Char) : Option (List Char × List Char) :=
  longBody? quote escapes (cs.length + 1) ((newline? cs).getD cs)

def shortString? : Scan String
  | '"' :: r => (basicBody? r).map fun (cs, r) => (String.ofList cs, r)
  | '\x27' :: r => (literalBody? r).map fun (cs, r) => (String.ofList cs, r)
  | _ => none

/-- A string in any form. Three quotes begin a string of several lines, also where the
first two would make an empty one. -/
def string? : Scan String
  | '"' :: '"' :: '"' :: r =>
    (long? '"' true r).map fun (cs, r) => (String.ofList cs, r)
  | '\x27' :: '\x27' :: '\x27' :: r =>
    (long? '\x27' false r).map fun (cs, r) => (String.ofList cs, r)
  | cs => shortString? cs

def isBareKeyChar (c : Char) : Bool := c.isAlphanum || c == '-' || c == '_'

/-- One part of a key. -/
def simpleKey? : Scan String := fun cs =>
  match cs with
  | '"' :: _ => shortString? cs
  | '\x27' :: _ => shortString? cs
  | _ =>
    match cs.takeWhile isBareKeyChar with
    | [] => none
    | key => some (String.ofList key, cs.dropWhile isBareKeyChar)

/-- The largest number of parts of a key, and of containers in each other. -/
def maxNesting : Nat := 79

/-- The parts of a key, with points between them. -/
def keyParts? : Nat → Scan (List String)
  | 0, _ => none
  | fuel + 1, cs => do
    let (k, r) ← simpleKey? (skipBlanks cs)
    match skipBlanks r with
    | '.' :: r =>
      let (ks, r) ← keyParts? fuel r
      return (k :: ks, r)
    | r => return ([k], r)

/-- A key: its parts before the last, which lead to a table, and the last, under which
the value stands there. -/
def key? : Scan (List String × String) := fun cs => do
  let (ks, r) ← keyParts? (maxNesting + 1) cs
  match ks.getLast? with
  | some k => if ks.length ≤ maxNesting then return ((ks.dropLast, k), r) else none
  | none => none

/-- Digits of a base with single underscores between them. -/
def groupedDigits? (digit? : Char → Option Nat) : Scan (List Nat)
  | [] => none
  | c :: r =>
    match digit? c with
    | none => none
    | some d =>
      match r with
      | '_' :: r => (groupedDigits? digit? r).map fun (ds, r) => (d :: ds, r)
      | c :: r' =>
        if (digit? c).isSome then
          (groupedDigits? digit? (c :: r')).map fun (ds, r) => (d :: ds, r)
        else some ([d], c :: r')
      | [] => some ([d], [])

/-- Decimal digits, with an optional sign and without a leading zero. -/
def decimal? (cs : List Char) : Option ((Bool × List Nat) × List Char) :=
  let (minus, r) :=
    match cs with
    | '-' :: r => (true, r)
    | '+' :: r => (false, r)
    | r => (false, r)
  match r with
  | '0' :: r => some ((minus, [0]), r)
  | r => (groupedDigits? Text.digit? r).map fun (ds, r) => ((minus, ds), r)

def valueOf (base : Nat) (ds : List Nat) : Nat := ds.foldl (fun n d => n * base + d) 0

def signedBound : Nat := UInt64.size / 2

/-- An integer of 64 bits with a sign. -/
def integer64? (n : Int) : Option Json :=
  if -(signedBound : Int) ≤ n ∧ n < signedBound then some (.number (.integer n)) else none

/-- Digits of a base other than ten, after its mark. -/
def radix? (base : Nat) (cs : List Char) : Option (Json × List Char) := do
  let digit? := fun c => (Text.hexDigit? c).filter (· < base)
  let (ds, r) ← groupedDigits? digit? cs
  return (← integer64? (valueOf base ds), r)

/-- A fraction. One that is too large stands for infinity, which only a negative one may
be. -/
def fraction? (minus : Bool) (whole fraction : List Nat) (exponent : Int) : Option Json :=
  match Magnitude.ofDecimal? (valueOf 10 (whole ++ fraction)) (exponent - fraction.length) with
  | some m => some (.number (.real ⟨minus, m⟩))
  | none => if minus then some (.number (.special "-inf")) else none

/-- An exponent: a sign and digits, which may start with a zero. -/
def exponent? (cs : List Char) : Option (Int × List Char) :=
  let (minus, r) :=
    match cs with
    | '-' :: r => (true, r)
    | '+' :: r => (false, r)
    | r => (false, r)
  (groupedDigits? Text.digit? r).map fun (ds, r) =>
    ((if minus then -(valueOf 10 ds : Int) else valueOf 10 ds), r)

def number? (cs : List Char) : Option (Json × List Char) := do
  match cs with
  | '0' :: 'x' :: r => radix? 16 r
  | '0' :: 'o' :: r => radix? 8 r
  | '0' :: 'b' :: r => radix? 2 r
  | _ =>
    let ((minus, whole), r) ← decimal? cs
    match r with
    | '.' :: r =>
      let (fraction, r) ← groupedDigits? Text.digit? r
      match r with
      | 'e' :: r | 'E' :: r =>
        let (e, r) ← exponent? r
        return (← fraction? minus whole fraction e, r)
      | r => return (← fraction? minus whole fraction 0, r)
    | 'e' :: r | 'E' :: r =>
      let (e, r) ← exponent? r
      return (← fraction? minus whole [] e, r)
    | r =>
      let n : Int := valueOf 10 whole
      return (← integer64? (if minus then -n else n), r)

/-- The number of two digits within a range. -/
def twoDigits? (low high : Nat) : Scan Nat
  | a :: b :: r => do
    let n := 10 * (← Text.digit? a) + (← Text.digit? b)
    if low ≤ n ∧ n ≤ high then some (n, r) else none
  | _ => none

def daysIn (year month : Nat) : Nat :=
  if month = 2 then
    if year % 4 = 0 ∧ (year % 100 ≠ 0 ∨ year % 400 = 0) then 29 else 28
  else if month = 4 ∨ month = 6 ∨ month = 9 ∨ month = 11 then 30
  else 31

def timeAfterHour? (hour : Nat) (cs : List Char) : Option (List Char × List Char) := do
  let (minute, r) ← twoDigits? 0 59 cs
  match r with
  | ':' :: r =>
    let (second, r) ← twoDigits? 0 60 r
    let text := Text.padded 2 hour ++ ':' :: Text.padded 2 minute ++ ':' :: Text.padded 2 second
    match r with
    | '.' :: r =>
      match Text.digits r with
      | ([], _) => none
      | (ds, rest) =>
        let shown := ((ds.take 9).reverse.dropWhile (· == 0)).reverse
        let digits := shown.map Nat.digitChar
        return (if digits.isEmpty then text else text ++ '.' :: digits, rest)
    | r => return (text, r)
  | _ => none

def time? (cs : List Char) : Option (List Char × List Char) := do
  let (hour, r) ← twoDigits? 0 23 cs
  match r with
  | ':' :: r => timeAfterHour? hour r
  | _ => none

/-- The offset of a time, if there is one. The offset of nothing has a plus sign. -/
def offset? : Scan (List Char)
  | 'Z' :: r | 'z' :: r => some (['Z'], r)
  | '+' :: r => hours '+' r
  | '-' :: r => hours '-' r
  | r => some ([], r)
where
  /-- Hours and minutes behind a sign. -/
  hours (sign : Char) (cs : List Char) : Option (List Char × List Char) := do
    let (hour, r) ← twoDigits? 0 23 cs
    match r with
    | ':' :: r =>
      let (minute, r) ← twoDigits? 0 59 r
      let sign := if hour = 0 ∧ minute = 0 then '+' else sign
      return (sign :: Text.padded 2 hour ++ ':' :: Text.padded 2 minute, r)
    | _ => none

/-- A date, after its year and dash, with the time behind it if there is one. -/
def dateAfterYear? (year : Nat) (cs : List Char) : Option (List Char × List Char) := do
  let (month, r) ← twoDigits? 1 12 cs
  match r with
  | '-' :: r =>
    let (day, r) ← twoDigits? 1 31 r
    if daysIn year month < day then none
    else
      let date := Text.padded 4 year ++ '-' :: Text.padded 2 month ++ '-' :: Text.padded 2 day
      match r with
      | c :: d =>
        if c = 'T' ∨ c = 't' ∨ c = ' ' then
          match twoDigits? 0 23 d with
          | some (hour, ':' :: t) =>
            let (time, r) ← timeAfterHour? hour t
            let (offset, r) ← offset? r
            return (date ++ 'T' :: time ++ offset, r)
          | _ => return (date, r)
        else return (date, r)
      | [] => return (date, [])
  | _ => none

/-- The key under which the text of a date or time stands. -/
def dateTimeKey : String := "$__toml_private_datetime"

/-- A date or a time as a value: an object with its text. It has no value of its own
kind, since documents of the other format have none. -/
def dateTime (text : List Char) : Json :=
  Json.record [(dateTimeKey, .string (String.ofList text))]

/-- A value that starts with a digit or a sign: a date, a time or a number. -/
def numberOrDate? (cs : List Char) : Option (Json × List Char) :=
  match cs with
  | a :: b :: c :: d :: '-' :: r =>
    match Text.number? [a, b, c, d] with
    | some year => (dateAfterYear? year r).map fun (t, r) => (dateTime t, r)
    | none => number? cs
  | _ :: _ :: ':' :: _ =>
    match twoDigits? 0 23 cs with
    | some _ => (time? cs).map fun (t, r) => (dateTime t, r)
    | none => number? cs
  | _ => number? cs

def word? (word : String) (cs : List Char) : Option (List Char) :=
  if word.toList.isPrefixOf cs then some (cs.drop word.toList.length) else none

/-- A value that is written as a word: a truth value, or a special number with or
without a sign. -/
def constant? (cs : List Char) : Option (Json × List Char) :=
  let special := fun (name : String) (v : Json) => (word? name cs).map fun r => (v, r)
  let unusual := fun (name : String) => special name (.number (.special name))
  (special "true" (.bool true)).or <| (special "false" (.bool false)).or <|
    (unusual "inf").or <| (unusual "nan").or <| (unusual "+inf").or <| (unusual "+nan").or <|
    (unusual "-inf").or (unusual "-nan")

end StageRelay.Toml
