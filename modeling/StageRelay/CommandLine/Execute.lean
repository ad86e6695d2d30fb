import StageRelay.CommandLine.Help
import StageRelay.CommandLine.Report
import StageRelay.CommandLine.RequestArguments
import StageRelay.Config.Source
import StageRelay.Gateway.Dispatch
import StageRelay.Http.Client

/-!
# Carrying out commands

A command is carried out in its `Surroundings`: the files, the environment, a
client for services, and the addresses that can be listened at. What it leaves
behind is an `Effect`: the text it prints, and the error it ends with if it fails.
-/

namespace StageRelay.CommandLine

/-- What a command finds around it. -/
structure Surroundings where
  files : FileTree
  environment : Environment
  /-- The directory for temporary files. -/
  temporary : String
  client : Client
  /-- Why an address cannot be listened at, if it cannot. -/
  refusal : String → Option String

/-- Why a command fails. -/
inductive CommandError where
  | config (e : ConfigError)
  | request (e : RequestError)
  /-- A request has no plan. -/
  | planning (method uri : String) (e : PipelineError)
  /-- A run is aborted. -/
  | aborted (e : PipelineError)
  /-- The configuration has errors. -/
  | unsound (errors warnings : Nat)
  | address (address reason : String)
  /-- The origins of the configuration cannot be used. -/
  | origins
deriving DecidableEq, Repr

namespace CommandError

def message : CommandError → String
  | .config e => s!"failed to load config: {e.message}"
  | .request e => e.message
  | .planning method uri e => s!"{method} {uri}: {e.message}"
  | .aborted e => s!"pipeline aborted ({e.kind}): {e.message}"
  | .unsound errors warnings =>
    s!"configuration has {errors} error(s) and {warnings} warning(s)"
  | .address place reason => s!"invalid listen address {place}: {reason}"
  | .origins => "the wildcard origin cannot be listed; leave the list empty instead"

/-- The code that the program ends with. -/
def exitCode : CommandError → UInt8
  | .origins => 101
  | _ => 1

end CommandError

/-- What a command leaves behind: the text that it prints, and whether it succeeds. A
command may print and fail all the same, as `check` does. -/
structure Effect where
  /-- The text it prints. -/
  output : String
  result : Except CommandError Unit

namespace Effect

def success (output : String) : Effect := ⟨output, .ok ()⟩

/-- The effect of what a result prints; an error prints nothing. -/
def ofResult (r : Except CommandError String) : Effect :=
  match r with
  | .ok output => success output
  | .error e => ⟨"", .error e⟩

end Effect

def Surroundings.config (w : Surroundings) (path : Option String) : Except CommandError Config :=
  (Config.load w.files w.environment path).mapError .config

def Surroundings.request (w : Surroundings) (a : RequestArguments) : Except CommandError Request :=
  (a.toRequest w.files).mapError .request

def ServeArguments.override (a : ServeArguments) (g : GatewaySettings) : GatewaySettings :=
  { g with host := a.host.getD g.host, port := a.port.getD g.port }

/-- The gateway that `serve` is to start, and its address. The address has what the
command line gives before what the configuration says. -/
def prepare (w : Surroundings) (a : ServeArguments) :
    Except CommandError (Gateway × GatewaySettings) := do
  let c ← w.config a.config
  let settings := a.override c.gateway
  match Gateway.ofConfig? w.temporary { c with gateway := settings } with
  | some g => return (g, settings)
  | none => .error .origins

/-- Carries out `serve` up to the point where requests arrive. Nothing is printed until
then, and an address that cannot be listened at is an error. -/
def serve (w : Surroundings) (a : ServeArguments) : Except CommandError String := do
  let (_, settings) ← prepare w a
  match w.refusal settings.address with
  | some reason => .error (.address settings.address reason)
  | none => return ""

def plan (w : Surroundings) (a : RequestArguments) : Except CommandError String := do
  let c ← w.config a.config
  let r ← w.request a
  match ((Pipeline.ofConfig c).plan .standard r).answer with
  | .ok p => return p.report ++ "\n"
  | .error e => .error (.planning r.method r.uri e)

/-- What `run` prints for a run, or the error that aborted it. -/
def reportOf (r : Except PipelineError Run) : Except CommandError String :=
  match r with
  | .ok run => .ok (run.report ++ "\n")
  | .error e => .error (.aborted e)

/-- The pipeline and the request of `run`. -/
def prepareRun (w : Surroundings) (a : RequestArguments) :
    Except CommandError (Pipeline × Request) := do
  let c ← w.config a.config
  return (Pipeline.ofConfig c, ← w.request a)

/-- Carries out `run`: the request goes through the stages of its plan against the live
services, and nothing cancels it on the way. -/
def run (w : Surroundings) (a : RequestArguments) : Except CommandError String := do
  let (p, r) ← prepareRun w a
  reportOf (p.handle .standard (.ofClient w.client) r (.start none)).1

/-- Checks a configuration. The report is printed in any case; the command fails if one
of the issues is an error, and warnings alone do no harm. -/
def check (c : Config) : Effect :=
  let (errors, warnings) := Issue.counts c.issues
  ⟨Issue.report c.issues, if errors = 0 then .ok () else .error (.unsound errors warnings)⟩

def Command.configPath : Command → Option String
  | .serve a => a.config
  | .plan a | .run a => a.config
  | .showConfig path | .checkConfig path => path

/-- The path of a payload that a command is given. Only an argument that begins with an
at-sign names a file; any other is the payload itself. -/
def Command.payloadPath : Command → Option String
  | .plan a | .run a => a.data.bind (Text.after? "@")
  | _ => none

/-- The paths that a command may read, whether or not there is something at them.
Nothing else of the file system has any influence on it. -/
def Command.paths (env : Environment) (c : Command) : List String :=
  c.configPath.toList ++ env.configPath.toList ++ (env.home.map Config.homeFiles).getD [] ++
    c.payloadPath.toList

def execute (w : Surroundings) : Command → Effect
  | .serve a => .ofResult (serve w a)
  | .plan a => .ofResult (plan w a)
  | .run a => .ofResult (run w a)
  | .showConfig path => .ofResult ((w.config path).map fun c => c.toJson.pretty ++ "\n")
  | .checkConfig path =>
    match w.config path with
    | .ok c => check c
    | .error e => ⟨"", .error e⟩

structure Exit where
  code : UInt8
  output : String
  errors : String
deriving DecidableEq, Repr

namespace Exit

def misuse : Exit := ⟨2, "", helpText []⟩

/-- The end of a program whose command line names no command to carry out. -/
def ofInterruption : Interruption → Exit
  | .misuse => misuse
  | .help topic => ⟨0, helpText topic, ""⟩
  | .version => ⟨0, s!"{programName} {version}\n", ""⟩

/-- The end of a program that carried out a command. What the command printed is printed
also when it fails, and then the error stands on the other output. -/
def ofEffect (e : Effect) : Exit :=
  match e.result with
  | .ok () => ⟨0, e.output, ""⟩
  | .error err => ⟨err.exitCode, e.output, s!"Error: {err.message}\n"⟩

end Exit

end StageRelay.CommandLine
