import StageRelay.Http.Credentials
import StageRelay.Http.Field
import StageRelay.Pipeline.Service

/-!
# Calling services over HTTP

A call becomes one outgoing request: the method, the address and the headers of
the service, and the payload as a body if the method carries one. A `Client`
answers such requests. What it answers is the answer of the service, whatever its
status; only a request that gets no answer is an error.

`Client.overNetwork` is the client that sends requests to a network. A request is
checked before it is sent: first the method, then the address, then the headers.
A response that points to another place may be followed there, up to a fixed number
of times, so one request of a caller may become several on the network. Which
responses are followed, and by which requests, is for the `Redirects` of the client
to say.
-/

namespace StageRelay

/-- An outgoing request as its caller gives it. Nothing in it has been checked yet. -/
structure HttpRequest where
  method : String
  url : String
  headers : SortedMap String String
  /-- The body; none when no body is sent at all. -/
  body : Option ByteArray
deriving DecidableEq, Inhabited

inductive ClientError where
  | invalidMethod (method : String)
  /-- The request cannot be built. -/
  | builder (reason : String)
  /-- The request gets no answer. -/
  | transport (reason : String)
deriving DecidableEq, Repr

/-- The behaviour of a client: what comes of the latest of some requests, the
latest first. -/
abbrev Client := List HttpRequest → Reaction (Except ClientError Answer)

def Call.httpRequest (c : Call) : HttpRequest :=
  ⟨c.service.method.name, c.service.uri, c.service.headers,
    if c.service.method.carriesBody then some c.payload else none⟩

/-- The error of a call whose request has no answer. What the caller did wrong is told
apart from what happened on the way. -/
def CallError.ofClient : ClientError → CallError
  | .invalidMethod method => .invalidRequest s!"method {method}"
  | .builder reason => .invalidRequest reason
  | .transport reason => .transport reason

/-- Services that are called with a client: one request for each call. The client is
told all earlier requests too, since what it does may depend on them. -/
def Invoker.ofClient (client : Client) : Invoker := fun calls =>
  (client (calls.map Call.httpRequest)).map fun r => r.mapError CallError.ofClient

structure WireRequest where
  method : String
  url : Url
  credentials : Option Credentials
  headers : SortedMap String String
  body : Option ByteArray
deriving DecidableEq

structure WireResponse where
  status : Status
  /-- Where the response points to, if it does. -/
  location : Option String
  body : ByteArray
deriving DecidableEq

/-- The servers of a network; none when a request reaches no server. -/
abbrev Network := WireRequest → Option WireResponse

def Network.unreachable : Network := fun _ => none

/-- How a client goes on after the response to a request: by another request, or by the
error that there can be none. Where nothing is said the response is the answer. This is
the client's own affair, so that it is given and not defined here. -/
abbrev Redirects := WireRequest → WireResponse → Option (Except ClientError WireRequest)

namespace WireRequest

/-- The reason of every request that cannot be built. -/
def builderReason : String := "builder error"

def isHttpScheme (scheme : String) : Bool := scheme == "http" || scheme == "https"

/-- The characters that the name of a host may have in a URL, but not in a message. -/
def unsendable : List Char := ['"', '\x60', '\x7b', '\x7d']

/-- The length of the longest URL that is sent, in bytes. -/
def maxUrlSize : Nat := 65534

/-- Whether requests can be sent to a URL. It needs a host that a message can name, one
of two schemes, and a length that is not too large. -/
def isSendable (u : Url) : Bool :=
  u.hasHost && isHttpScheme u.scheme &&
    u.host.all (fun h => !h.text.toList.any unsendable.contains) &&
    u.text.utf8ByteSize ≤ maxUrlSize

/-- The error of a request to a URL that requests cannot be sent to. -/
def unsendableTo (u : Url) : ClientError := .builder s!"{builderReason} for url ({u.text})"

def isHeader (name value : String) : Bool :=
  Http.isFieldName name && Http.isFieldValue value.toUTF8

/-- The request on the network that a caller's request becomes. What cannot be sent is
an error here, before anything reaches the network. -/
def ofRequest (r : HttpRequest) : Except ClientError WireRequest :=
  if !Http.isToken r.method then .error (.invalidMethod r.method)
  else
    match Url.parse? none r.url with
    | none => .error (.builder builderReason)
    | some u =>
      if u.hasHost && !r.headers.toList.all (fun h => isHeader h.1 h.2) then
        .error (.builder builderReason)
      else if isSendable u.sent then
        .ok ⟨r.method, u.sent, u.credentials?, r.headers, r.body⟩
      else .error (unsendableTo u.sent)

end WireRequest

namespace Client

/-- The largest number of responses that are followed to another place. -/
def maxRedirects : Nat := 10

/-- Sends a request and follows what comes back at most `n` times. All requests that are
sent are listed in order, also those before an error. -/
def send (redirects : Redirects) (network : Network) :
    Nat → WireRequest → List WireRequest × Except ClientError Answer
  | n, r =>
    match network r with
    | none => ([r], .error (.transport s!"error sending request for url ({r.url.text})"))
    | some response =>
      match n, redirects r response with
      | _, none => ([r], .ok ⟨response.status, response.body⟩)
      | 0, some _ => ([r], .error (.transport s!"error following redirect for url ({r.url.text})"))
      | _ + 1, some (.error e) => ([r], .error e)
      | n + 1, some (.ok next) =>
        let (sent, result) := send redirects network n next
        (r :: sent, result)

/-- The requests that are sent for a caller's request, and what comes of it. A request
that cannot be built sends none. -/
def exchange (redirects : Redirects) (network : Network) (r : HttpRequest) :
    List WireRequest × Except ClientError Answer :=
  match WireRequest.ofRequest r with
  | .ok r => send redirects network maxRedirects r
  | .error e => ([], .error e)

/-- The client that sends requests to a network. It takes no time, cancels nothing and
does not remember what was sent before. -/
def overNetwork (redirects : Redirects) (network : Network) : Client
  | [] => ⟨.error (.builder WireRequest.builderReason), 0, false⟩
  | r :: _ => ⟨(exchange redirects network r).2, 0, false⟩

end Client

end StageRelay
