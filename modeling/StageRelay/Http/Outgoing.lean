import StageRelay.Http.Client
import StageRelay.Http.Framing

/-!
# Outgoing messages

The bytes of a request on the network, and the response that bytes from the
network make. A request names its host, accepts any response, and says how long
its body is if it has one; what its caller gave for these fields is kept. The
credentials of its URL come before the fields of the caller. Interim
responses are passed over. A response to a question for the head only, and one
whose status rules a body out, has no body whatever its fields say.
-/

namespace StageRelay

/-- The host of a URL, with its port if that is not the usual one. -/
def Url.authority (u : Url) : String :=
  (u.host.map Host.text).getD "" ++
    match u.port with
    | some p => s!":{p}"
    | none => ""

def Url.target (u : Url) : String :=
  u.path.text ++
    match u.query with
    | some q => "?" ++ q
    | none => ""

namespace WireRequest

def content (r : WireRequest) : ByteArray := r.body.getD .empty

/-- The fields that a request has unless its caller gives them. A body without bytes is
not announced. -/
def ownFields (r : WireRequest) : List (String × String) :=
  [("host", r.url.authority), ("accept", "*/*")] ++
    if r.content.isEmpty then [] else [("content-length", toString r.content.size)]

/-- All fields of a request. Those of the caller go before those that the client would
add itself, and credentials come first. -/
def fields (r : WireRequest) : List (String × String) :=
  let given := r.headers.toList.map fun h => (Ascii.lower h.1, h.2)
  let secret := r.credentials.map fun c => ("authorization", c.fieldValue)
  secret.toList ++ given ++ r.ownFields.filter fun f => (given.lookup f.1).isNone

def toBytes (r : WireRequest) : ByteArray :=
  let first := s!"{r.method} {r.url.target} HTTP/1.1\r\n"
  let lines := r.fields.map fun f => s!"{f.1}: {f.2}\r\n"
  (first ++ String.join lines ++ "\r\n").toUTF8 ++ r.content

end WireRequest

namespace WireResponse

open Http

/-- The status on the first line of a response, which has exactly three digits. What
follows the status is not looked at. -/
def status? (firstLine : String) : Option Status := do
  let (version, rest) ← Text.cut? ' ' firstLine
  if !Text.startsWith version "HTTP/1." then none
  else
    let digits := rest.toList.takeWhile (· != ' ')
    if digits.length = 3 then (Text.number? digits).map Nat.toUInt16 else none

def isBodiless (method : String) (s : Status) : Bool :=
  method == "HEAD" || s < 200 || s == 204 || s == 304

/-- Reads the response to a request with a method, after at most `interim` interim
responses; `closed` says that nothing more arrives. -/
def read (method : String) (closed : Bool) : Nat → List UInt8 → Arrival WireResponse
  | 0, _ => .broken
  | interim + 1, bytes => do
    let (head, rest) ← readHead bytes
    let status ← .ofOption (status? head.firstLine)
    if 100 ≤ status ∧ status < 200 ∧ status ≠ 101 then read method closed interim rest
    else
      let framing ← if isBodiless method status then .complete (.sized 0)
        else Framing.ofHead head .untilClosed
      let (body, _) ← framing.read closed rest
      return ⟨status, head.text? "location", body.toByteArray⟩

def maxInterim : Nat := 16

def ofBytes (r : WireRequest) (closed : Bool) (bytes : ByteArray) : Arrival WireResponse :=
  read r.method closed (maxInterim + 1) bytes.toList

end WireResponse

end StageRelay
