import StageRelay.CommandLine.Commands
import StageRelay.Files.Tree
import StageRelay.Request
import StageRelay.Text.Blank

/-!
# A request from the command line

The headers are looked at in their order, then the payload; the first that cannot
be used is the error. Of two headers of one name the later one counts.
-/

namespace StageRelay.CommandLine

inductive RequestError where
  /-- A header has no colon. -/
  | headerWithoutColon (raw : String)
  /-- Nothing but blanks stands before the colon of a header. -/
  | headerWithoutName (raw : String)
  | unreadablePayload (path : String) (e : FileError)
deriving DecidableEq, Repr

def RequestError.message : RequestError → String
  | .headerWithoutColon raw => s!"invalid header '{raw}': expected NAME:VALUE"
  | .headerWithoutName raw => s!"invalid header '{raw}': empty name"
  | .unreadablePayload path e => s!"failed to read payload file {path}: {e.message}"

/-- The name and the value of a header, without the blanks around them. The first colon
ends the name, so that a value may have colons of its own. -/
def parseHeader (raw : String) : Except RequestError (String × String) :=
  match Text.cut? ':' raw with
  | none => .error (.headerWithoutColon raw)
  | some (name, value) =>
    let name := Text.trim name
    if name = "" then .error (.headerWithoutName raw) else .ok (name, Text.trim value)

/-- The request with more headers, one after another in the order of the command line.
The first that is not well formed decides the error. -/
def addHeaders (r : Request) : List String → Except RequestError Request
  | [] => .ok r
  | raw :: rest => do
    let (name, value) ← parseHeader raw
    addHeaders (r.withHeader name value) rest

/-- The text that the argument for the payload stands for: itself, or the contents of
the file that it names after an at-sign. -/
def payloadText (files : FileTree) (data : String) : Except RequestError String :=
  match Text.after? "@" data with
  | none => .ok data
  | some path => (files.readText path).mapError (.unreadablePayload path)

/-- The request that the arguments describe. -/
def RequestArguments.toRequest (files : FileTree) (a : RequestArguments) :
    Except RequestError Request := do
  let r ← addHeaders (Request.make a.method a.uri) a.headers
  match a.data with
  | none => return r
  | some data => return r.withPayload (← payloadText files data).toUTF8

end StageRelay.CommandLine
