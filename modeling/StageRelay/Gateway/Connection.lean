import StageRelay.Gateway.Inbound
import StageRelay.Gateway.Response
import StageRelay.Http.Framing

/-!
# Connections of the gateway

The requests that the bytes of a connection make, and the bytes of the responses.
A connection stays open for further requests unless the request asks for its end
or is of the older version of the protocol.
-/

namespace StageRelay

open Http

structure Delivery where
  request : Inbound
  /-- Whether the connection ends with this request. -/
  isLast : Bool

namespace Delivery

/-- The method, the target and the version on the first line of a request, which stand
there with one blank between them. -/
def start? (firstLine : String) : Option (String × Target × String) := do
  match (Text.pieces ' ' firstLine.toList).map String.ofList with
  | [method, target, version] =>
    if Http.isToken method && Text.startsWith version "HTTP/1." then
      return (method, ← Target.ofText? target, version)
    else none
  | _ => none

/-- Reads a request. A request without a mark for the end of its body has none. -/
def read (bytes : List UInt8) : Arrival (Delivery × List UInt8) := do
  let (head, rest) ← readHead bytes
  let (method, target, version) ← .ofOption (start? head.firstLine)
  let framing ← Framing.ofHead head (.sized 0)
  let (body, rest) ← framing.read false rest
  let request : Inbound := ⟨method, target, head.fields, body.toByteArray⟩
  return (⟨request, head.lists "connection" "close" || version == "HTTP/1.0"⟩, rest)

end Delivery

namespace Response

/-- Whether the response to a method has a body, be it empty. Only then is its length
said, so that the reader knows where the next response begins. -/
def hasLength (r : Response) (method : String) : Bool :=
  method != "HEAD" && 200 ≤ r.status && r.status != 204 && r.status != 304

/-- A response to a request with a method, as bytes. The last response on a connection
says that it is the last one. -/
def toBytes (r : Response) (method : String) (isLast : Bool) : ByteArray :=
  let fields := r.headers.toList ++
    (if r.hasLength method then [("content-length", toString r.body.size)] else []) ++
    (if isLast then [("connection", "close")] else [])
  let lines := fields.map fun f => s!"{f.1}: {f.2}\r\n"
  (s!"HTTP/1.1 {r.status} \r\n" ++ String.join lines ++ "\r\n").toUTF8 ++
    if r.hasLength method then r.body else .empty

def malformed : Response := empty 400

end Response

end StageRelay
