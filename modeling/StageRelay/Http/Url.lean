import StageRelay.Http.Host
import StageRelay.Http.UrlPath

/-!
# URLs

A text is read as a URL by itself or relative to another one. Schemes of the web
have rules of their own: they need a host, a backslash means a slash, and the
usual port of the scheme is left out. The scheme of files is like them, but it has
neither user nor port, and its host may be absent. Whatever may not stand in its part
of the URL is percent-encoded, so a URL has one text.
-/

namespace StageRelay

/-- A URL by its parts, each in its written form. -/
structure Url where
  scheme : String
  username : String
  password : String
  host : Option Host
  /-- The port, if it is not the usual one of the scheme. -/
  port : Option Nat
  path : UrlPath
  query : Option String
  fragment : Option String
deriving DecidableEq, Repr

namespace Url

/-- The schemes of the web and their usual ports. -/
def webSchemes : List (String × Nat) :=
  [("http", 80), ("https", 443), ("ws", 80), ("wss", 443), ("ftp", 21)]

def fileScheme : String := "file"

def usualPort? (scheme : String) : Option Nat := webSchemes.lookup scheme

def kindOf (scheme : String) : SchemeKind :=
  if scheme = fileScheme then .file
  else if (usualPort? scheme).isSome then .web
  else .plain

/-- A text without controls and blanks at its ends, and without tabs and line
breaks. -/
def clean (cs : List Char) : List Char :=
  let dropLow := List.dropWhile fun c => c ≤ ' '
  ((dropLow (dropLow cs).reverse).reverse).filter fun c => c ≠ '\t' ∧ c ≠ '\n' ∧ c ≠ '\r'

/-- The scheme of a text, in lower case, and what follows its colon. -/
def scheme? (cs : List Char) : Option (String × List Char) :=
  let isSchemeChar := fun c => c.isAlphanum || c == '+' || c == '-' || c == '.'
  match cs.takeWhile isSchemeChar, cs.dropWhile isSchemeChar with
  | c :: name, ':' :: rest =>
    if c.isAlpha then some (String.ofList ((c :: name).map Char.toLower), rest) else none
  | _, _ => none

/-- What stands before and after the first of some characters. -/
def cutAt (c : Char) (cs : List Char) : List Char × Option (List Char) :=
  match cs.dropWhile (· != c) with
  | [] => (cs, none)
  | _ :: rest => (cs.takeWhile (· != c), some rest)

/-- Path, query and fragment of a text. -/
def cutTail (cs : List Char) : List Char × Option (List Char) × Option (List Char) :=
  let (main, fragment) := cutAt '#' cs
  let (path, query) := cutAt '?' main
  (path, query, fragment)

def writtenQuery (scheme : String) (cs : List Char) : String :=
  let set := if (kindOf scheme).isSpecial then Percent.specialQuery else Percent.query
  String.ofList (Percent.encode set cs)

def writtenFragment (cs : List Char) : String :=
  String.ofList (Percent.encode Percent.fragment cs)

/-- The number of a port, absent when it is the usual one, and what follows it: only
a backslash may. -/
def port? (scheme : String) (cs : List Char) : Option (Option Nat × List Char) :=
  let (number, rest) := (cs.takeWhile Char.isDigit, cs.dropWhile Char.isDigit)
  if rest.head?.any (· ≠ '\\') then none
  else if number.isEmpty then some (none, rest)
  else
    match (Text.number? number).filter (· < UInt16.size) with
    | none => none
    | some n => some (if usualPort? scheme = some n then none else some n, rest)

/-- The host of an authority, and what follows the colon after it; a colon between
brackets belongs to the host. -/
def cutPort (cs : List Char) : List Char × Option (List Char) :=
  let bracketed :=
    match cs with
    | '[' :: _ => cs.takeWhile (· != ']')
    | _ => []
  let (host, port) := cutAt ':' (cs.drop bracketed.length)
  (bracketed ++ host, port)

/-- What stands before the host of an authority, if anything does, and the rest: the
last at-sign divides them. -/
def cutUser (cs : List Char) : Option (List Char) × List Char :=
  let location := (cs.reverse.takeWhile (· != '@')).reverse
  if location.length = cs.length then (none, cs)
  else (some (cs.take (cs.length - location.length - 1)), location)

def writtenUser (cs : List Char) : String := String.ofList (Percent.encode Percent.userInfo cs)

/-- The URL of a scheme, not that of files, whose authority, path and so on follow. -/
def withAuthority? (scheme : String) (cs : List Char) : Option Url := do
  let kind := kindOf scheme
  let ends := fun c => kind.isSlash c || c == '?' || c == '#'
  let (user, location) := cutUser (cs.takeWhile (!ends ·))
  let (username, password) := cutAt ':' (user.getD [])
  let (username, password) := (writtenUser username, writtenUser (password.getD []))
  let (hostText, portText) := cutPort location
  let tail := cs.dropWhile (!ends ·)
  if hostText.isEmpty ∧ (kind.isSpecial ∨ portText.isSome ∨ username ≠ "" ∨ password ≠ "" ∨
      (user = some [] ∧ !tail.isEmpty)) then none
  else
    let host ← if hostText.isEmpty then some (.verbatim "")
      else Host.ofChars? kind.isSpecial hostText
    let (port, rest) ← port? scheme (portText.getD [])
    let (path, query, fragment) := cutTail tail
    return ⟨scheme, username, password, host, port,
      .segments (UrlPath.afterHost kind (rest ++ path)).names,
      query.map (writtenQuery scheme), fragment.map writtenFragment⟩

/-- The URL of a file with a host and a path. -/
def fileUrl (host : Host) (names : List String) (query fragment : Option (List Char)) : Url :=
  ⟨fileScheme, "", "", some host, none, .segments names, query.map (writtenQuery fileScheme),
    fragment.map writtenFragment⟩

/-- The host of a file on the same machine, which is there but has no name. -/
def noHost : Host := .verbatim ""

/-- The URL of a file whose host and path follow. The letter of a drive is no host. -/
def fileWithHost? (cs : List Char) : Option Url := do
  let ends := fun c => SchemeKind.file.isSlash c || c == '?' || c == '#'
  let hostText := cs.takeWhile (!ends ·)
  let (path, query, fragment) := cutTail (cs.dropWhile (!ends ·))
  if UrlPath.isDrive hostText then
    return fileUrl noHost (UrlPath.afterSlash .file (hostText ++ path)).names query fragment
  else
    let host ← if hostText.isEmpty then some noHost else Host.ofChars? true hostText
    if host = noHost ∨ host = .domain "localhost" then
      return fileUrl noHost (UrlPath.afterSlash .file path).names query fragment
    else
      let p := UrlPath.afterHost .file path
      return fileUrl (if p.hasDrive then noHost else host) p.names query fragment

/-- The URL of a file that a text after the scheme spells. Two slashes say that a host
follows; otherwise the file is on the same machine. -/
def file? (cs : List Char) : Option Url :=
  let slashes := (cs.take 2).takeWhile SchemeKind.file.isSlash
  if slashes.length = 2 then fileWithHost? (cs.drop 2)
  else
    let (path, query, fragment) := cutTail (cs.drop slashes.length)
    some (fileUrl noHost (UrlPath.afterSlash .file path).names query fragment)

/-- The same URL with other parts after the authority. -/
def withTail (u : Url) (names : List String) (query fragment : Option (List Char)) : Url :=
  { u with
    path := .segments names
    query := query.map (writtenQuery u.scheme)
    fragment := fragment.map writtenFragment }

/-- A text without scheme, read relative to a URL. What the text gives takes the place
of the same part of the URL and of all behind it; a path that starts with no slash goes
on from the directory that the URL is in. -/
def relative? (base : Url) (cs : List Char) : Option Url := do
  let kind := kindOf base.scheme
  let (path, query, fragment) := cutTail cs
  match base.path.names? with
  | none =>
    if path.isEmpty ∧ query.isNone ∧ fragment.isSome then
      return { base with fragment := fragment.map writtenFragment }
    else none
  | some names =>
    match path with
    | [] =>
      if query.isSome then return base.withTail names query fragment
      else return { base with fragment := fragment.map writtenFragment }
    | c :: rest =>
      if kind.isSlash c then
        if rest.head?.any kind.isSlash then withAuthority? base.scheme (cs.drop 2)
        else return base.withTail (UrlPath.afterSlash kind rest).names query fragment
      else
        return base.withTail (UrlPath.continued kind names.dropLast path).names query fragment

/-- A text after a scheme without rules of its own that starts no authority. -/
def withoutAuthority (scheme : String) (cs : List Char) : Url :=
  let (path, query, fragment) := cutTail cs
  let path :=
    match path with
    | '/' :: rest => UrlPath.segments (UrlPath.afterSlash .plain rest).names
    | _ => UrlPath.verbatim (String.ofList (Percent.encode Percent.controls path))
  ⟨scheme, "", "", none, none, path, query.map (writtenQuery scheme), fragment.map writtenFragment⟩

/-- The URL that a text spells by itself or relative to another URL. With nothing to be
relative to, a text without scheme spells none. -/
def parse? (base : Option Url) (text : String) : Option Url :=
  let cs := clean text.toList
  match scheme? cs with
  | none => base.bind (relative? · cs)
  | some (scheme, rest) =>
    match kindOf scheme with
    | .file => file? rest
    | .web =>
      let slashes := rest.takeWhile SchemeKind.web.isSlash
      match base.filter fun u => u.scheme = scheme ∧ slashes.length < 2 with
      | some u => relative? u rest
      | none => withAuthority? scheme (rest.drop slashes.length)
    | .plain =>
      match rest with
      | '/' :: '/' :: rest => withAuthority? scheme rest
      | rest => some (withoutAuthority scheme rest)

def hasHost (u : Url) : Bool := u.host.any (·.text ≠ "")

/-- The port that a URL leads to. -/
def effectivePort (u : Url) : Nat := (u.port.or (usualPort? u.scheme)).getD 0

/-- User name and password as they stand before the host, with nothing there if there is
neither. -/
def userText (u : Url) : String :=
  if u.username = "" ∧ u.password = "" then ""
  else u.username ++ (if u.password = "" then "" else ":" ++ u.password) ++ "@"

/-- What stands between the scheme and the path. A path that starts with two slashes
would be taken for a host, so a point keeps it apart if there is none. -/
def authorityText (u : Url) : String :=
  match u.host with
  | none => if Text.startsWith u.path.text "//" then "/." else ""
  | some host => "//" ++ u.userText ++ host.text ++ (u.port.elim "" fun n => s!":{n}")

def text (u : Url) : String :=
  u.scheme ++ ":" ++ u.authorityText ++ u.path.text ++ u.query.elim "" ("?" ++ ·) ++
    u.fragment.elim "" ("#" ++ ·)

end Url

end StageRelay
