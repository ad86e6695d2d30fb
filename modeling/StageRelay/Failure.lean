import StageRelay.Directive

/-!
# Why a request or a configuration fails

`ConfigError` lists what can be wrong with a configuration, be it when it is
loaded or when a request meets it. `PipelineError` lists the ways in which a run
is aborted. Every cause has a `kind`, a fixed word for machines, and a `message`.
-/

namespace StageRelay

/-- What is wrong with a configuration. -/
inductive ConfigError where
  /-- A route names an extension that is not registered. -/
  | unknownExtension (route name : String)
  /-- An extension answered a status that its routing table does not know. -/
  | unroutedStatus (extension : String) (status : Status)
  | invalid (reason : String)
  /-- A document is not a configuration. -/
  | parse (path reason : String)
  /-- A file cannot be read. -/
  | io (reason : String)
deriving DecidableEq, Repr

inductive PipelineError where
  | noRouteMatched (method uri : String)
  | config (e : ConfigError)
  /-- The service of a stage gave no answer. -/
  | serviceUnavailable (extension uri reason : String)
  /-- The time for the whole run is over. -/
  | deadlineExceeded (extension : String) (budgetMs : Nat)
  | cancelled (extension : String)
deriving DecidableEq, Repr

namespace ConfigError

def kind : ConfigError → String
  | .unknownExtension .. => "unknown_extension"
  | .unroutedStatus .. => "unrouted_status"
  | .invalid .. => "invalid"
  | .parse .. => "parse"
  | .io .. => "io"

def message : ConfigError → String
  | .unknownExtension route name => s!"route '{route}' references unknown extension '{name}'"
  | .unroutedStatus extension status =>
    s!"extension '{extension}' has no response routing for status {status}"
  | .invalid reason => s!"invalid config: {reason}"
  | .parse path reason => s!"failed to parse config {path}: {reason}"
  | .io reason => s!"io error: {reason}"

end ConfigError

namespace PipelineError

def kind : PipelineError → String
  | .noRouteMatched .. => "no_route_matched"
  | .config _ => "config_error"
  | .serviceUnavailable .. => "service_unavailable"
  | .deadlineExceeded .. => "deadline_exceeded"
  | .cancelled _ => "cancelled"

def message : PipelineError → String
  | .noRouteMatched method uri => s!"no route matched {method} {uri}"
  | .config e => e.message
  | .serviceUnavailable extension uri reason =>
    s!"extension '{extension}' unavailable at {uri}: {reason}"
  | .deadlineExceeded extension budget =>
    s!"pipeline deadline of {budget}ms exceeded before extension '{extension}' completed"
  | .cancelled extension => s!"pipeline cancelled before extension '{extension}' completed"

end PipelineError

end StageRelay
