import StageRelay.Json.Print
import StageRelay.Pipeline.Run

/-!
# Responses of the gateway

A run that completes is answered with its last status and its payload, a rejected
request with a fixed text, and an aborted run with a document that names the kind
of the error and words it. So what a stage answers is seen by the caller only
when all stages forward.
-/

namespace StageRelay

/-- A response over HTTP. The names of its headers are in lower case, so that a header
replaces an earlier one of the same name. -/
structure Response where
  status : Status
  headers : SortedMap String String
  body : ByteArray
deriving DecidableEq

/-- The status that an aborted run is answered with. -/
def PipelineError.httpStatus : PipelineError → Status
  | .noRouteMatched .. => 404
  | .config _ => 500
  | .serviceUnavailable .. => 502
  | .deadlineExceeded .. => 504
  | .cancelled _ => 503

namespace Response

def contentType : String := "content-type"

def make (status : Status) (type : String) (body : ByteArray) : Response :=
  ⟨status, SortedMap.empty.insert contentType type, body⟩

def bytes (status : Status) (body : ByteArray) : Response :=
  make status "application/octet-stream" body

def text (status : Status) (body : ByteArray) : Response :=
  make status "text/plain; charset=utf-8" body

def json (status : Status) (document : Json) : Response :=
  make status "application/json" document.compact.toUTF8

def empty (status : Status) : Response := ⟨status, .empty, .empty⟩

def withHeader (r : Response) (name value : String) : Response :=
  { r with headers := r.headers.insert name value }

def withHeaders (r : Response) (headers : List (String × String)) : Response :=
  headers.foldl (fun r h => r.withHeader h.1 h.2) r

/-- A response about an error: its wording and its kind. -/
def failure (status : Status) (kind message : String) : Response :=
  json status (Json.record [("error", .string message), ("kind", .string kind)])

def isSendable (s : Status) : Bool := 100 ≤ s && s ≤ 999

/-- The response for the outcome of a run. A status that cannot be sent, which a service
may have answered, becomes an error of its own. -/
def ofOutcome : Outcome → Response
  | .completed payload status =>
    if isSendable status then bytes status payload
    else failure 502 "invalid_status" s!"extension returned invalid status code {status}"
  | .rejected .. => text Outcome.rejectionStatus Outcome.rejectionBody

def ofResult : Except PipelineError Run → Response
  | .ok run => ofOutcome run.outcome
  | .error e => failure e.httpStatus e.kind e.message

/-- The response for the answer of a service that the gateway offers itself. Whatever
its status, the body is sent as it is. -/
def ofAnswer (a : Answer) : Response := bytes (if isSendable a.status then a.status else 500) a.body

end Response

end StageRelay
