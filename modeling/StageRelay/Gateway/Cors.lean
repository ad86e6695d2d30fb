import StageRelay.Gateway.Response
import StageRelay.Http.Field

/-!
# Calls from other origins

Browsers ask the gateway which origins may call it. Without a list every origin
may. With a list an origin is named in the response only if it is listed; listed
origins that no header can hold are dropped. The asterisk cannot be listed: it
would mean every origin, and for that the list is to be left out.
-/

namespace StageRelay

/-- The origins that may call. -/
inductive Cors where
  | anyOrigin
  | listed (origins : List String)
deriving DecidableEq, Repr

namespace Cors

def anything : String := "*"

/-- The origins of a configuration; none when the asterisk is among them, which cannot
be listed beside others. Origins that no field could have as its value are left out. -/
def ofOrigins? (origins : List String) : Option Cors :=
  if origins.isEmpty then some .anyOrigin
  else
    let usable := origins.filter fun o => Http.isFieldValue o.toUTF8
    if usable.contains anything then none else some (.listed usable)

/-- The origin that is named in the response to a request from an origin. If all may
call, it is the text for anything, also when no origin was given. -/
def allowed? (c : Cors) (origin : Option ByteArray) : Option String :=
  match c with
  | .anyOrigin => some anything
  | .listed origins => origins.find? fun o => origin == some o.toUTF8

/-- The headers of every response: the origin that may call, and what of the
request the response depends on. -/
def commonHeaders (c : Cors) (origin : Option ByteArray) : List (String × String) :=
  ("vary", "origin, access-control-request-method, access-control-request-headers") ::
    ((c.allowed? origin).map (("access-control-allow-origin", ·))).toList

/-- The headers of a response to a request. -/
def headers (c : Cors) (origin : Option ByteArray) : List (String × String) :=
  c.commonHeaders origin ++
    match c with
    | .anyOrigin => [("access-control-expose-headers", anything)]
    | .listed _ => []

/-- The response to the question whether a request may be made. It answers for the
origin only, and allows every method and every header. -/
def preflight (c : Cors) (origin : Option ByteArray) : Response :=
  (Response.empty 200).withHeaders
    (c.commonHeaders origin ++
      [("access-control-allow-methods", anything), ("access-control-allow-headers", anything)])

end Cors

end StageRelay
