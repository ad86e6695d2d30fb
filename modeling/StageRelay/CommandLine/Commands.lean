import StageRelay.CommandLine.Options
import StageRelay.Config.Basic
import StageRelay.Text.Digits

/-!
# The commands

What the program can be told to do: serve, plan or run a single request, show the
configuration or check it. Each command is read from the words of a command line
by the table of its options; `help` before the names of a command asks for help
about it.
-/

namespace StageRelay.CommandLine

structure RequestArguments where
  config : Option String
  method : String
  uri : String
  /-- Headers, each as a name, a colon and a value. -/
  headers : List String
  /-- The payload, or an at-sign and the path of a file that holds it. -/
  data : Option String
deriving DecidableEq, Repr

structure ServeArguments where
  config : Option String
  host : Option String
  port : Option UInt16
deriving DecidableEq, Repr

inductive Command where
  | serve (a : ServeArguments)
  | plan (a : RequestArguments)
  | run (a : RequestArguments)
  | showConfig (path : Option String)
  | checkConfig (path : Option String)
deriving DecidableEq, Repr

structure Invocation where
  verbose : Bool
  command : Command
deriving DecidableEq, Repr

/-- The port that a text spells: digits, at most `65535`, after a plus sign or none. A
minus sign is accepted too, but then the number can only be zero. -/
def port? (s : String) : Option UInt16 :=
  match s.toList with
  | '-' :: digits => (Text.number? digits).bind fun n => if n = 0 then some 0 else none
  | cs => (Text.natural? UInt16.size cs).map Nat.toUInt16

def anyText : String → Bool := fun _ => true

/-- The option for a verbose log. Every command has it, and it counts wherever it is
given on the way to the command. -/
def verboseRule : OptionRule :=
  ⟨"verbose", some 'v', .flag, "", "Enable verbose (debug-level) logging"⟩

def helpRule : OptionRule := ⟨"help", some 'h', .help, "", "Print help"⟩

/-- The option for the path of the configuration. A path that is given goes before every
other place where a configuration may be found. -/
def configRule : OptionRule :=
  ⟨"config", some 'c', .single anyText, "CONFIG", "Config file path (overrides auto-discovery)"⟩

def helpCommand : String := "help"

/-- The program without a command. -/
def rootLevel : Level :=
  { topic := []
    rules := [verboseRule, helpRule, ⟨"version", some 'V', .version, "", "Print version"⟩]
    commands := ["serve", "plan", "run", "config", helpCommand] }

/-- The options of `serve`. -/
def serveLevel : Level :=
  { topic := ["serve"]
    rules :=
      [configRule, verboseRule,
        ⟨"host", none, .single anyText, "HOST", "Bind address (overrides `gateway.host`)"⟩,
        ⟨"port", some 'p', .single fun s => (port? s).isSome, "PORT",
          "Bind port (overrides `gateway.port`)"⟩,
        helpRule]
    commands := [] }

/-- The options of the commands about a single request, which are the same for planning
it and for running it. -/
def requestLevel (name : String) : Level :=
  { topic := [name]
    rules :=
      [configRule, verboseRule,
        ⟨"method", some 'm', .single anyText, "METHOD", "HTTP method [default: GET]"⟩,
        ⟨"uri", some 'u', .single anyText, "URI", "Request URI (path plus optional query)"⟩,
        ⟨"header", some 'H', .repeated, "NAME:VALUE", "Request header as `name:value`. Repeatable"⟩,
        ⟨"data", some 'd', .single anyText, "DATA",
          "Request payload, or `@path` to read it from a file"⟩,
        helpRule]
    commands := [] }

/-- The command `config` without one of the commands below it. -/
def configLevel : Level :=
  { topic := ["config"]
    rules := [verboseRule, helpRule]
    commands := ["show", "check", helpCommand] }

/-- The options of the commands about the configuration. -/
def configActionLevel (name : String) : Level :=
  { topic := ["config", name], rules := [configRule, verboseRule, helpRule], commands := [] }

def topics : List (List String) :=
  [[], ["serve"], ["plan"], ["run"], ["config"], [helpCommand], ["config", "show"],
    ["config", "check"], ["config", helpCommand]]

/-- The end of reading where help is asked for by name. It is help only if there is a
command of that name, and otherwise a misuse. -/
def helpAbout (topic : List String) : Interruption :=
  if topics.contains topic then .help topic else .misuse

/-- Reads the options of a command without commands below it. Every word that is no
option is then too much. -/
def readOptions (l : Level) (words : List String) : Except Interruption Given :=
  (l.read [] words).map Prod.fst

def serveArguments (g : Given) : ServeArguments :=
  ⟨g.value? "config", g.value? "host", (g.value? "port").bind port?⟩

def defaultMethod : String := "GET"

/-- The arguments of a command about a single request. A URI must be among them; the
method need not be, and all headers are taken in order. -/
def requestArguments (g : Given) : Except Interruption RequestArguments :=
  match g.value? "uri" with
  | none => .error .misuse
  | some uri =>
    .ok ⟨g.value? "config", (g.value? "method").getD defaultMethod, uri, g.values "header",
      g.value? "data"⟩

/-- A command with the options that came with it. -/
def invocation (verbose : Bool) (g : Given) (c : Command) : Invocation :=
  ⟨verbose || g.has verboseRule.long, c⟩

/-- Reads a command about the configuration. A command below `config` has to follow, and
its own options are read after those of `config`. -/
def readConfigCommand (verbose : Bool) (words : List String) : Except Interruption Invocation := do
  match ← configLevel.read [] words with
  | (_, none) => .error .misuse
  | (outer, some (name, words)) =>
    let verbose := verbose || outer.has verboseRule.long
    if name = helpCommand then .error (helpAbout ("config" :: words))
    else
      let g ← readOptions (configActionLevel name) words
      let path := g.value? "config"
      return invocation verbose g (if name = "show" then .showConfig path else .checkConfig path)

/-- Reads the words of a command line, from the program's own options down to those of
the command. The log is verbose if one level on the way asks for it. -/
def parse (words : List String) : Except Interruption Invocation := do
  match ← rootLevel.read [] words with
  | (_, none) => .error .misuse
  | (outer, some (name, words)) =>
    let verbose := outer.has verboseRule.long
    if name = helpCommand then .error (helpAbout words)
    else if name = "config" then readConfigCommand verbose words
    else if name = "serve" then
      let g ← readOptions serveLevel words
      return invocation verbose g (.serve (serveArguments g))
    else
      let g ← readOptions (requestLevel name) words
      let a ← requestArguments g
      return invocation verbose g (if name = "plan" then .plan a else .run a)

end StageRelay.CommandLine
