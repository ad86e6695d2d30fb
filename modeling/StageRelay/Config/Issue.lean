import StageRelay.Config.Basic
import StageRelay.Failure

/-!
# Checking a configuration

A configuration that can be read may still be of no use. `Config.issues` lists
what it finds: first about the table of routes, route by route in their order,
then about the extensions in the order of their names, then about the settings.
An error will make some requests fail; a warning is something that was hardly
meant.

Each issue is a constructor; `Issue.message` words it.
-/

namespace StageRelay

inductive Severity where
  | error
  | warning
deriving DecidableEq, Repr

inductive Issue where
  | noRoutes
  /-- An earlier route takes every request. -/
  | unreachable (route earlier : String)
  /-- The condition of a route holds for no request. -/
  | neverMatches (route : String)
  | unknownExtension (route name : String)
  /-- No route takes every request. -/
  | noCatchAll
  | notHttp (extension uri : String)
  | emptyRouting (extension : String)
  | unreferenced (extension : String)
  | emptyQueueStatus (status : Status)
deriving DecidableEq, Repr

namespace Severity

def name : Severity → String
  | .error => "error"
  | .warning => "warning"

end Severity

namespace Issue

/-- How grave an issue is. -/
def severity : Issue → Severity
  | .unknownExtension .. | .notHttp .. | .emptyRouting _ | .emptyQueueStatus _ => .error
  | .noRoutes | .unreachable .. | .neverMatches _ | .noCatchAll | .unreferenced _ => .warning

def isError (i : Issue) : Bool := i.severity == .error

def message : Issue → String
  | .noRoutes => "route table is empty; every request fails with no_route_matched"
  | .unreachable route earlier =>
    s!"route '{route}' is unreachable: route '{earlier}' always matches"
  | .neverMatches route => s!"route '{route}' can never match"
  | .unknownExtension route name => (ConfigError.unknownExtension route name).message
  | .noCatchAll => "no unconditional route; unmatched requests fail with no_route_matched"
  | .notHttp extension uri => s!"extension '{extension}' has non-http service uri '{uri}'"
  | .emptyRouting extension => s!"extension '{extension}' has an empty response routing table"
  | .unreferenced extension => s!"extension '{extension}' is not referenced by any route"
  | .emptyQueueStatus status =>
    s!"pipeline.empty_queue_status {status} is not a valid HTTP status"

/-- An issue as a line of a report. -/
def line (i : Issue) : String := s!"{i.severity.name}: {i.message}"

end Issue

namespace Config

/-- The issues of a route at a position, given the label of the first unconditional
route before it. Such a route takes every request, so that this one is never reached. -/
def routeIssues (extensions : SortedMap String Extension) (index : Nat) (catchAll : Option String)
    (r : Route) : List Issue :=
  let label := r.label index
  (catchAll.map fun earlier => Issue.unreachable label earlier).toList ++
    (if r.condition.isUnsatisfiable then [.neverMatches label] else []) ++
    r.stages.filterMap fun s =>
      if extensions.contains s.name then none else some (.unknownExtension label s.name)

/-- The issues of routes from a position on, and the label of the first unconditional
route among them. That label is carried along, so that later routes are compared with
the first one only. -/
def routesIssues (extensions : SortedMap String Extension) :
    Nat → Option String → List Route → List Issue × Option String
  | _, catchAll, [] => ([], catchAll)
  | index, catchAll, r :: rs =>
    let next := if r.condition.isUnconditional then catchAll.or (some (r.label index)) else catchAll
    let (issues, last) := routesIssues extensions (index + 1) next rs
    (routeIssues extensions index catchAll r ++ issues, last)

def isHttp (uri : String) : Bool :=
  Text.startsWith uri "http://" || Text.startsWith uri "https://"

def isReferenced (routes : List Route) (name : String) : Bool :=
  routes.any fun r => r.stages.any fun s => s.name == name

/-- The issues of an extension under its key. -/
def extensionIssues (routes : List Route) (name : String) (e : Extension) : List Issue :=
  (if isHttp e.service.uri then [] else [.notHttp name e.service.uri]) ++
    (if e.routing.isEmpty then [.emptyRouting name] else []) ++
    (if isReferenced routes name then [] else [.unreferenced name])

/-- What is wrong or odd about a configuration, in the order in which it is reported:
the table, its routes one by one, the lack of a last resort, and then the extensions and
the pipeline. -/
def issues (c : Config) : List Issue :=
  let (found, catchAll) := routesIssues c.extensions 0 none c.routes
  (if c.routes.isEmpty then [.noRoutes] else []) ++
    found ++
    (if !c.routes.isEmpty && catchAll.isNone then [.noCatchAll] else []) ++
    (c.extensions.toList.flatMap fun e => extensionIssues c.routes e.1 e.2) ++
    (if RoutingTable.isListable c.pipeline.emptyQueueStatus then []
      else [.emptyQueueStatus c.pipeline.emptyQueueStatus])

end Config

end StageRelay
