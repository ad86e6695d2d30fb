import StageRelay.CommandLine.Commands
import StageRelay.Identity

/-!
# Help

The text about a command: what it is for, how it is called, the commands below
it and its options, each with a line of its own. Names stand in one column and
explanations in another.
-/

namespace StageRelay.CommandLine

def summary (topic : List String) : String :=
  match topic with
  | ["serve"] => "Run the HTTP gateway"
  | ["plan"] => "Show the route and extension queue a request would get"
  | ["run"] => "Run one request through its pipeline against the live services"
  | ["config"] => "Inspect the configuration"
  | ["config", "show"] => "Print the resolved configuration as JSON"
  | ["config", "check"] => "Report configuration problems; fails when any is an error"
  | [] => "Extension pipeline gateway"
  | _ => "Print this message or the help of the given subcommand(s)"

/-- The place of a command in the tree of commands. Names that belong to no command lead
to a place without options and without commands below it. -/
def levelOf (topic : List String) : Level :=
  match topic with
  | [] => rootLevel
  | ["serve"] => serveLevel
  | ["plan"] => requestLevel "plan"
  | ["run"] => requestLevel "run"
  | ["config"] => configLevel
  | ["config", name] => configActionLevel name
  | topic => ⟨topic, [], []⟩

/-- What follows the name of a command when it is called. A value is shown only for the
option that must be given. -/
def usage (l : Level) : String :=
  let uri := if l.rules.any (·.long == "uri") then " --uri <URI>" else ""
  let command := if l.commands.isEmpty then "" else " <COMMAND>"
  s!" [OPTIONS]{uri}{command}"

/-- The names of an option and of its value. -/
def OptionRule.heading (r : OptionRule) : String :=
  let short := r.short.elim "    " fun c => s!"-{c}, "
  let value := if r.takesValue then s!" <{r.valueName}>" else ""
  s!"{short}--{r.long}{value}"

/-- Two columns of text, the second one aligned below itself, so that its place is
decided by the longest entry of the first. -/
def columns (rows : List (String × String)) : String :=
  let width := (rows.map fun r => r.1.length).foldl max 0
  String.join (rows.map fun r =>
    "  " ++ r.1 ++ "".pushn ' ' (width - r.1.length) ++ "  " ++ r.2 ++ "\n")

def helpText (topic : List String) : String :=
  let l := levelOf topic
  let commands := l.commands.map fun name => (name, summary (topic ++ [name]))
  let options := l.rules.map fun r => (r.heading, r.summary)
  summary topic ++ "\n\nUsage: " ++ Text.join " " (programName :: topic) ++ usage l ++ "\n\n" ++
    (if commands.isEmpty then "" else "Commands:\n" ++ columns commands ++ "\n") ++
    "Options:\n" ++ columns options

end StageRelay.CommandLine
