import StageRelay.Files.Tree
import StageRelay.Gateway.Cors
import StageRelay.Gateway.Inbound
import StageRelay.Identity
import StageRelay.Services.Store
import StageRelay.Services.Validation

/-!
# The gateway

Some paths of the gateway are its own: the report on its health and the services
that it offers itself, each for certain methods. Every other request, also with
another method on such a path, goes through the pipeline. So no request is
refused for its path or its method.

The question whether a request may be made from another origin is answered before
all else. A request that says its body is too long is refused at once; a body
that turns out too long is refused where it is read.
-/

namespace StageRelay

inductive Endpoint where
  | health
  | validation (rules : SortedMap String Rule)
  | store (path : String)
  | pipeline

def Endpoint.readsBody : Endpoint → Bool
  | .health => false
  | _ => true

/-- A path of the gateway's own with the methods that it answers. Requests for the path
with other methods go through the pipeline. -/
structure Mount where
  path : String
  methods : List String
  endpoint : Endpoint

/-- A gateway that is ready to answer. Its services are offered just when they have
their rules or their file here. -/
structure Gateway where
  pipeline : Pipeline
  cors : Cors
  maxBodyBytes : Nat
  /-- The rules of the validation service, if it is offered. -/
  validation : Option (SortedMap String Rule)
  /-- The file of the store service, if it is offered. -/
  store : Option String

/-- What the world around the gateway contributes to one answer. -/
structure Moment where
  /-- The time, as it is written into records. -/
  timestamp : String
  /-- The name of this request in the response. -/
  requestId : String
  /-- Why a text is not JSON. -/
  explain : ByteArray → String

/-- What answers change: the session of the pipeline and the files. -/
structure GatewayState where
  session : Session
  files : FileTree

namespace Gateway

/-- The gateway of a configuration, given the directory for temporary files. There is
none when the origins of the configuration cannot be used. -/
def ofConfig? (temporary : String) (c : Config) : Option Gateway := do
  let services := c.services
  return {
    pipeline := .ofConfig c
    cors := ← Cors.ofOrigins? c.gateway.corsOrigins
    maxBodyBytes := c.gateway.maxBodyBytes
    validation := if services.validation.enabled then some services.validation.rules else none
    store := if services.store.enabled then some (services.store.resolvedPath temporary) else none }

def healthPath : String := "/health"

def validationPath : String := "/_services/validation"

def storePath : String := "/_services/store"

/-- The paths of the gateway's own. A service that is switched off has none, so that
requests for its path go through the pipeline. -/
def mounts (g : Gateway) : List Mount :=
  ⟨healthPath, ["GET", "HEAD"], .health⟩ ::
    (g.validation.map fun rules => Mount.mk validationPath ["POST"] (.validation rules)).toList ++
    (g.store.map fun path => Mount.mk storePath ["POST"] (.store path)).toList

/-- What answers a request with a method and a path, and the methods to name in
the response when the path is one of the gateway's own with other methods. -/
def endpoint (g : Gateway) (method path : String) : Endpoint × Option String :=
  match g.mounts.find? (·.path == path) with
  | none => (.pipeline, none)
  | some m =>
    if m.methods.contains method then (m.endpoint, none)
    else (.pipeline, some (Text.join "," m.methods))

def healthReport (g : Gateway) : Json :=
  Json.record [("extensions", .nat g.pipeline.registry.size),
    ("routes", .nat g.pipeline.routes.length), ("status", .string "ok"),
    ("version", .string version)]

def requestIdHeader : String := "x-request-id"

/-- The answer of an endpoint to a request whose body may be read. Only the store
changes files, and only the pipeline goes on with its session. -/
def answerAt (g : Gateway) (invoke : Invoker) (m : Moment) (r : Inbound) (s : GatewayState) :
    Endpoint → Response × GatewayState
  | .health => (.json 200 g.healthReport, s)
  | .validation rules => (.ofAnswer (Validation.handle m.explain rules r.body), s)
  | .store path =>
    let (answer, files) :=
      Store.handle (fun files text => files.append path text) m.timestamp r.body s.files
    (.ofAnswer answer, { s with files := files })
  | .pipeline =>
    let (result, session) := g.pipeline.handle .standard invoke r.toRequest s.session
    ((Response.ofResult result).withHeader requestIdHeader m.requestId,
      { s with session := session })

def tooLong (message : String) : Response := .text 413 message.toUTF8

def lengthLimitMessage : String := "length limit exceeded"

/-- The largest body that is read of a request: no more than the gateway accepts, and no
more than the request says it has. -/
def bodyLimit (g : Gateway) (r : Inbound) : Nat :=
  match r.declaredLength? with
  | some n => min n g.maxBodyBytes
  | none => g.maxBodyBytes

/-- The answer of an endpoint, or the refusal of a body that is too long. A length that
is declared counts for every endpoint, also for one that does not read the body. -/
def answerWithin (g : Gateway) (invoke : Invoker) (m : Moment) (r : Inbound) (s : GatewayState)
    (e : Endpoint) : Response × GatewayState :=
  if r.declaredLength?.any (g.maxBodyBytes < ·) then (tooLong lengthLimitMessage, s)
  else if e.readsBody && g.bodyLimit r < r.body.size then
    (tooLong s!"Failed to buffer the request body: {lengthLimitMessage}", s)
  else g.answerAt invoke m r s e

/-- The response as it is sent to a request with a method, with the methods to name. If
the request asked for a tunnel and gets it, nothing may follow the head and nothing is
named; if it asks only for the head, the body is left out. -/
def trimFor (method : String) (allow : Option String) (r : Response) : Response :=
  if method = "CONNECT" ∧ 200 ≤ r.status ∧ r.status < 300 then { r with body := .empty }
  else
    let r := r.withHeaders (allow.map (("allow", ·))).toList
    if method = "HEAD" then { r with body := .empty } else r

/-- The answer to a request. A preflight is answered without asking any endpoint; every
other answer is that of the endpoint, with the fields that tell a browser who may
call. -/
def answer (g : Gateway) (invoke : Invoker) (m : Moment) (r : Inbound) (s : GatewayState) :
    Response × GatewayState :=
  let (e, allow) := g.endpoint r.method r.target.routePath
  let origin := r.first? "origin"
  let (response, s) :=
    if r.method = "OPTIONS" then (g.cors.preflight origin, s)
    else
      let (response, s) := g.answerWithin invoke m r s e
      (response.withHeaders (g.cors.headers origin), s)
  (trimFor r.method allow response, s)

end Gateway

end StageRelay
