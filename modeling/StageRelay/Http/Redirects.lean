import StageRelay.Http.Client

/-!
# Going to another place

A response with one of a few statuses may say in its location that another place is
to be asked. `Redirects.usual` goes there if a request can be sent to it, with a
referer that says where it comes from. After the older statuses the request becomes a
plain query; after the newer ones it is repeated. Another server gets no secrets.
-/

namespace StageRelay

def WireResponse.movedStatuses : List Status := [301, 302, 303, 307, 308]

/-- The URL as it is shown to the servers that it led to: without user and fragment. -/
def Url.referer (u : Url) : String := { u.withoutUser with fragment := none }.text

namespace WireRequest

/-- The names of headers that say something about a body. -/
def bodyHeaders : List String :=
  ["transfer-encoding", "content-encoding", "content-type", "content-length"]

/-- The names of headers that are meant for one server only. -/
def secretHeaders : List String :=
  ["authorization", "cookie", "cookie2", "proxy-authorization", "www-authenticate"]

/-- A request without the headers of a list, whose names are in lower case. All other
headers stay as they are. -/
def withoutHeaders (r : WireRequest) (names : List String) : WireRequest :=
  let kept := r.headers.toList.filter fun h => !names.contains (Ascii.lower h.1)
  { r with headers := SortedMap.ofList kept }

/-- The same request to another place. On another server, or at another port, it has
neither credentials nor the headers that are secret. -/
def movedTo (r : WireRequest) (u : Url) : WireRequest :=
  if r.url.host = u.host ∧ r.url.effectivePort = u.effectivePort then { r with url := u }
  else
    let bare := r.withoutHeaders secretHeaders
    { bare with url := u, credentials := none }

/-- A request that says where it comes from. A place that was reached in secret is not
named to one that is not. -/
def referredBy (r : WireRequest) (previous : Url) : WireRequest :=
  if previous.scheme = "https" ∧ r.url.scheme = "http" then r
  else
    let bare := r.withoutHeaders ["referer"]
    { bare with headers := bare.headers.insert "referer" previous.referer }

/-- A request that asks for a place, and no more: the body and what is said about it are
gone, and the method is that of a query. -/
def asQuery (r : WireRequest) : WireRequest :=
  let bare := r.withoutHeaders bodyHeaders
  { bare with method := if r.method = "HEAD" then "HEAD" else "GET", body := none }

end WireRequest

namespace Redirects

/-- The usual way: it follows every response that points to a place with which the
client can speak, and gives up where that place is of a kind it cannot speak with. -/
def usual : Redirects := fun r response =>
  if !WireResponse.movedStatuses.contains response.status then none
  else
    match response.location.bind (Url.parse? (some r.url)) with
    | none => none
    | some u =>
      if WireRequest.isSendable u then
        let moved := (r.movedTo u).referredBy r.url
        some (.ok (if response.status < 307 then moved.asQuery else moved))
      else if WireRequest.isHttpScheme u.scheme then none
      else some (.error (WireRequest.unsendableTo u))

end Redirects

end StageRelay
