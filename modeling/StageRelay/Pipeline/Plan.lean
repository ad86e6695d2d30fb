import StageRelay.Config.Basic
import StageRelay.Failure

/-!
# Plans

A plan says which route a request takes and which stages it passes through. The
first route whose condition holds is taken. Its extensions are queued in their
order: each must be registered, and takes part when it is active and its own
condition holds.

Conditions are decided by an `Evaluator`. Each function also lists the
conditions it asked about, in order, so that what is asked can be stated and not
only what is answered.
-/

namespace StageRelay

/-- A stage of a queue: a service to call, and what its answers lead to. It is all that
a run has to know about an extension. -/
structure Stage where
  name : String
  service : Service
  routing : RoutingTable
deriving DecidableEq, Inhabited

def Extension.stage (e : Extension) : Stage := ⟨e.name, e.service, e.routing⟩

/-- An answer with the conditions that were asked about for it, in the order in which
they were asked. So the cost of an answer can be told, and not just the answer. -/
@[ext] structure Consulted (α : Type) where
  answer : α
  asked : List Condition

namespace Consulted

variable {α β : Type}

def pure (a : α) : Consulted α := ⟨a, []⟩

def map (f : α → β) (c : Consulted α) : Consulted β := ⟨f c.answer, c.asked⟩

/-- The same answer after one more question. -/
def after (condition : Condition) (c : Consulted α) : Consulted α :=
  ⟨c.answer, condition :: c.asked⟩

/-- One answer after another; the questions of both count. -/
def bind (c : Consulted α) (f : α → Consulted β) : Consulted β :=
  ⟨(f c.answer).answer, c.asked ++ (f c.answer).asked⟩

@[simp] theorem answer_map (f : α → β) (c : Consulted α) : (c.map f).answer = f c.answer := rfl

@[simp] theorem asked_map (f : α → β) (c : Consulted α) : (c.map f).asked = c.asked := rfl

@[simp] theorem answer_after (d : Condition) (c : Consulted α) : (c.after d).answer = c.answer :=
  rfl

@[simp] theorem asked_after (d : Condition) (c : Consulted α) : (c.after d).asked = d :: c.asked :=
  rfl

end Consulted

structure Plan where
  /-- The label of the route. -/
  route : String
  routeIndex : Nat
  queue : List Stage
deriving DecidableEq, Inhabited

/-- The first route from a position on whose condition holds. No condition behind it is
asked about. -/
def Route.selectFrom (evaluate : Evaluator) (request : Request) :
    Nat → List Route → Consulted (Option (Nat × Route))
  | _, [] => .pure none
  | index, r :: rs =>
    if evaluate r.condition request then .after r.condition (.pure (some (index, r)))
    else (selectFrom evaluate request (index + 1) rs).after r.condition

/-- The route that a request takes, with its position. Having none is an error that
names what was asked for. -/
def Route.select (evaluate : Evaluator) (routes : List Route) (request : Request) :
    Consulted (Except PipelineError (Nat × Route)) :=
  (selectFrom evaluate request 0 routes).map fun
    | some found => .ok found
    | none => .error (.noRouteMatched request.method request.uri)

/-- The stages that the extensions of a route become for a request. Only those that are
active and whose conditions hold become stages; `label` is the route's, for an error
about an extension that is not registered. -/
def Stage.queue (evaluate : Evaluator) (registry : Registry) (label : String) (request : Request) :
    List StageRef → Consulted (Except ConfigError (List Stage))
  | [] => .pure (.ok [])
  | r :: rs =>
    match registry.get? r.name with
    | none => .pure (.error (.unknownExtension label r.name))
    | some e =>
      if !e.active then queue evaluate registry label request rs
      else if evaluate r.condition request then
        ((queue evaluate registry label request rs).map fun
          | .ok stages => .ok (e.stage :: stages)
          | .error err => .error err).after r.condition
      else (queue evaluate registry label request rs).after r.condition

/-- What a gateway does with requests: its routes, its extensions, and the limits
of a run. -/
structure Pipeline where
  routes : List Route
  registry : Registry
  settings : PipelineSettings

namespace Pipeline

def ofConfig (c : Config) : Pipeline := ⟨c.routes, c.registry, c.pipeline⟩

/-- The plan for a request. Whether its extensions are registered is found out here,
before any service is called. -/
def plan (p : Pipeline) (evaluate : Evaluator) (request : Request) :
    Consulted (Except PipelineError Plan) :=
  (Route.select evaluate p.routes request).bind fun
    | .error e => .pure (.error e)
    | .ok (index, r) =>
      let label := r.label index
      (Stage.queue evaluate p.registry label request r.stages).map fun
        | .ok queue => .ok ⟨label, index, queue⟩
        | .error e => .error (.config e)

end Pipeline

end StageRelay
