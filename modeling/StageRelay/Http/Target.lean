import StageRelay.Http.Field
import StageRelay.Text.Split

/-!
# Targets of inbound requests

The target of a request is a path with a query, or an authority. A target in
absolute form is reduced to its path and query; what stands behind a number sign
is dropped. The asterisk counts as a path.
-/

namespace StageRelay.Http

inductive Target where
  /-- A path with its query. -/
  | path (pathAndQuery : String)
  /-- A host and port. -/
  | authority (text : String)
deriving DecidableEq, Repr

namespace Target

def isSchemeChar (c : Char) : Bool := c.isAlphanum || c == '+' || c == '-' || c == '.'

def afterScheme? (cs : List Char) : Option (List Char) :=
  match cs.dropWhile isSchemeChar with
  | ':' :: '/' :: '/' :: rest => some rest
  | _ => none

def endsAuthority (c : Char) : Bool := c == '/' || c == '?' || c == '#'

/-- Path and query of a target in absolute form; an empty one is the root. -/
def ofPathAndQuery (cs : List Char) : Target :=
  let kept := cs.takeWhile (· != '#')
  .path (if kept.isEmpty then "/" else String.ofList kept)

/-- The target that a text spells. There is none for the empty text, nor for a text that
has no authority where one is due. -/
def ofText? (s : String) : Option Target :=
  match s.toList with
  | [] => none
  | ['*'] => some (.path "*")
  | '/' :: cs => some (ofPathAndQuery ('/' :: cs))
  | cs =>
    match afterScheme? cs with
    | some rest =>
      if (rest.takeWhile (!endsAuthority ·)).isEmpty then none
      else some (ofPathAndQuery (rest.dropWhile (!endsAuthority ·)))
    | none => if cs.any endsAuthority then none else some (.authority s)

def uri : Target → String
  | .path pathAndQuery => pathAndQuery
  | .authority text => text

/-- The path of a target, without the query. An authority has none, so that it never is
one of the gateway's own paths. -/
def routePath : Target → String
  | .path pathAndQuery =>
    let path := Text.before '?' pathAndQuery
    if path = "" then "/" else path
  | .authority _ => ""

end Target

end StageRelay.Http
