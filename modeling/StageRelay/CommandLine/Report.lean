import StageRelay.Config.Issue
import StageRelay.Pipeline.Run
import StageRelay.Schema.Written
import StageRelay.Json.Print
import StageRelay.Text.Utf8

/-!
# Reports

What the commands print: a plan as a document, a run as lines of text with the
body at the end, and the issues of a configuration with a verdict.
-/

namespace StageRelay

def Stage.toJson (s : Stage) : Json :=
  Json.record [("name", .string s.name), ("service", s.service.toJson),
    ("response_routing", s.routing.toJson)]

def Plan.toJson (p : Plan) : Json :=
  Json.record [("route", .string p.route), ("route_index", .nat p.routeIndex),
    ("queue", .array (p.queue.map Stage.toJson))]

def Plan.report (p : Plan) : String := p.toJson.pretty

def Phase.title : Phase → String
  | .completed => "Completed"
  | .errored => "Errored"

/-- The line of a stage at a position, counted from zero. -/
def StageRecord.line (position : Nat) (s : StageRecord) : String :=
  let replaced := if s.payloadReplaced then ", payload replaced" else ""
  s!"  {position + 1}. {s.extension} -> {s.status} {s.directive.name}{replaced} ({s.elapsedMs}ms)\n"

/-- The lines of the stages of a run. -/
def stageLines (stages : List StageRecord) : String :=
  if stages.isEmpty then "stages: none\n"
  else "stages:\n" ++ String.join (stages.mapIdx StageRecord.line)

/-- The report of a run. -/
def Run.report (r : Run) : String :=
  s!"route:  {r.route}\nphase:  {r.outcome.phase.title}\nstatus: {r.outcome.status}\n" ++
    stageLines r.stages ++ "\n" ++ Utf8.lossy r.outcome.body

def Issue.counts (issues : List Issue) : Nat × Nat :=
  (issues.countP Issue.isError, issues.countP (!·.isError))

/-- The lines about issues, and the verdict if none of them is an error. With errors
there is no verdict, since the command's own error tells how many there are. -/
def Issue.report (issues : List Issue) : String :=
  let lines := String.join (issues.map fun i => i.line ++ "\n")
  match counts issues with
  | (0, 0) => lines ++ "configuration ok\n"
  | (0, warnings) => lines ++ s!"configuration ok ({warnings} warning(s))\n"
  | _ => lines

end StageRelay
