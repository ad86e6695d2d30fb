import StageRelay.Bytes
import StageRelay.SortedMap
import StageRelay.Text.Ascii
import StageRelay.Text.Split

/-!
# Requests

A request as it enters the pipeline. It is built once and not changed while it
is routed; the payload that stages replace is a state of the run, not of the
request.

Built with `Request.make` and `withHeader`, a request has its method in upper
case and the names of its headers in lower case. A look-up puts only the name
that is looked for in lower case.
-/

namespace StageRelay

structure Upload where
  field : String
  filename : Option String
  contentType : Option String
  data : ByteArray
deriving DecidableEq

/-- A request as it enters the pipeline. Where it is built, its method is in upper case
and the names of its headers are in lower case. -/
structure Request where
  method : String
  /-- The path, and the query behind a question mark if there is one. -/
  uri : String
  headers : SortedMap String String
  payload : ByteArray
  files : List Upload
deriving DecidableEq

namespace Request

def make (method uri : String) : Request := ⟨Ascii.upper method, uri, .empty, .empty, []⟩

/-- The request with a header, in place of one of the same name. -/
def withHeader (r : Request) (name value : String) : Request :=
  { r with headers := r.headers.insert (Ascii.lower name) value }

def withPayload (r : Request) (payload : ByteArray) : Request := { r with payload := payload }

def withFile (r : Request) (file : Upload) : Request := { r with files := r.files ++ [file] }

/-- The URI before the first question mark. -/
def path (r : Request) : String := Text.before '?' r.uri

/-- The value of a header, by a name in any case. It is looked up in lower case, the
form in which names are stored when a request is built. -/
def header (r : Request) (name : String) : Option String := r.headers.get? (Ascii.lower name)

def hasPayload (r : Request) : Bool := !r.payload.isEmpty

def hasFiles (r : Request) : Bool := !r.files.isEmpty

@[simp] theorem method_make (method uri : String) : (make method uri).method = Ascii.upper method :=
  rfl

@[simp] theorem method_withHeader (r : Request) (name value : String) :
    (r.withHeader name value).method = r.method := rfl

end Request

end StageRelay
