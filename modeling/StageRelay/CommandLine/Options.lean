import StageRelay.Text.Split

/-!
# Options on a command line

A command line is read word by word. A word that starts with two hyphens names
an option by its long name, with a value behind an equals sign if there is one; a
word that starts with one hyphen names options by single characters, the last of
which may have its value right behind it. An option without its value takes the
next word, unless that looks like an option itself. The lone hyphen is an
ordinary word, and two hyphens alone end the options.

Reading stops at the first command, at the first thing that is wrong, and where
help or the version is asked for.
-/

namespace StageRelay.CommandLine

inductive OptionKind where
  /-- Switched on, at most once. -/
  | flag
  /-- Given with one value, at most once; not every text need be a value. -/
  | single (accepts : String → Bool)
  /-- Given with one value, any number of times. -/
  | repeated
  /-- Asks for help. -/
  | help
  /-- Asks for the version. -/
  | version

structure OptionRule where
  long : String
  short : Option Char
  kind : OptionKind
  /-- What a value is called in help. -/
  valueName : String
  summary : String

/-- Why reading a command line ends without a command. -/
inductive Interruption where
  /-- The command line is wrong. -/
  | misuse
  /-- Help is asked for, about the command with these names. -/
  | help (topic : List String)
  | version
deriving DecidableEq, Repr

/-- The options given so far with their values, in the order of the command line. A flag
has an empty value, and an option that may be repeated stands here as often as it was
given. -/
abbrev Given := List (String × String)

namespace Given

def has (g : Given) (long : String) : Bool := g.any (·.1 == long)

def values (g : Given) (long : String) : List String :=
  (g.filter (·.1 == long)).map Prod.snd

def value? (g : Given) (long : String) : Option String := g.lookup long

end Given

def OptionRule.takesValue (r : OptionRule) : Bool :=
  match r.kind with
  | .single _ | .repeated => true
  | .flag | .help | .version => false

/-- The place of a command in the tree of commands: its names, its options, and the
commands below it. Words are read level by level. -/
structure Level where
  topic : List String
  rules : List OptionRule
  commands : List String

namespace Level

/-- Takes an option, with its value if it has one. Asking for help or for the version
ends the reading at once, and what may be given once must not be given again. -/
def take (l : Level) (g : Given) (r : OptionRule) (value : String) : Except Interruption Given :=
  match r.kind with
  | .help => .error (.help l.topic)
  | .version => .error .version
  | .flag => if g.has r.long then .error .misuse else .ok (g ++ [(r.long, value)])
  | .single accepts =>
    if accepts value && !g.has r.long then .ok (g ++ [(r.long, value)]) else .error .misuse
  | .repeated => .ok (g ++ [(r.long, value)])

/-- Takes a long option. A value may be attached to the name by an equals sign; an
option whose value is still to come is given back. -/
def takeLong (l : Level) (g : Given) (word : String) :
    Except Interruption (Given × Option OptionRule) := do
  let (name, attached) :=
    match Text.cut? '=' word with
    | some (name, value) => (name, some value)
    | none => (word, none)
  match l.rules.find? (·.long == name), attached with
  | none, _ => .error .misuse
  | some r, some value => if r.takesValue then return (← l.take g r value, none) else .error .misuse
  | some r, none => if r.takesValue then return (g, some r) else return (← l.take g r "", none)

/-- Takes a bundle of short options. The first one that has a value takes what is left
of the word for it, or, if nothing is left, is given back to get the next word. -/
def takeShort (l : Level) (g : Given) : List Char → Except Interruption (Given × Option OptionRule)
  | [] => .ok (g, none)
  | c :: cs =>
    match l.rules.find? (·.short == some c) with
    | none => .error .misuse
    | some r =>
      if r.takesValue then
        match cs with
        | [] => .ok (g, some r)
        | '=' :: value => (l.take g r (String.ofList value)).map (·, none)
        | value => (l.take g r (String.ofList value)).map (·, none)
      else
        match l.take g r "" with
        | .ok g => takeShort l g cs
        | .error e => .error e

/-- Whether a word looks like an option. A single dash does not: it is a word like any
other. -/
def isOption (word : String) : Bool := Text.startsWith word "-" && word ≠ "-"

/-- Takes a word that is no command. -/
def takeWord (l : Level) (g : Given) (word : String) :
    Except Interruption (Given × Option OptionRule) :=
  match Text.after? "--" word with
  | some name => l.takeLong g name
  | none => if isOption word then l.takeShort g (word.toList.drop 1) else .error .misuse

/-- Reads the words of a level: the options given, and the command below it with
the words that follow, if there is one. -/
def read (l : Level) (g : Given) :
    List String → Except Interruption (Given × Option (String × List String))
  | [] => .ok (g, none)
  | word :: rest =>
    if l.commands.contains word then .ok (g, some (word, rest))
    else if word = "--" then if rest.isEmpty then .ok (g, none) else .error .misuse
    else
      match l.takeWord g word with
      | .error e => .error e
      | .ok (g, none) => read l g rest
      | .ok (g, some r) =>
        match rest with
        | [] => .error .misuse
        | value :: rest =>
          if isOption value then .error .misuse
          else
            match l.take g r value with
            | .error e => .error e
            | .ok g => read l g rest

end Level

end StageRelay.CommandLine
