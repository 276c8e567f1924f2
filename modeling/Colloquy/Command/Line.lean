/-!
# The command line

Arguments are read from left to right.  Switches may stand before the command or behind
it; one given twice on one side is a fault, and one given on both sides counts as it
stands behind the command.  After `--` every argument is a place to work on.  A value is
checked when the argument after it is taken, so a fault there may come second.
-/

namespace Colloquy
namespace Command

/-- Why arguments are not acted upon. -/
inductive UsageError where
  | help
  | version
  | nothingGiven
  | missingCommand
  | unknownCommand
  | unknownArgument
  | missingPlace
  | repeated
  | badValue
  | surplusValue
deriving DecidableEq, Repr

inductive Verb where
  | run
  | validate
  | index
deriving DecidableEq, Repr

namespace Verb

def ofName? : String -> Option Verb
  | "run" => some run
  | "validate" => some validate
  | "index" => some index
  | _ => none

end Verb

/-- What to do, and with which workflow or directory. -/
inductive Task where
  | run (workflow : String) (json quiet : Bool)
  | validate (workflow : String)
  | index (directory : String)
deriving DecidableEq, Repr

structure Line where
  config : String
  verbose : Bool
  noColor : Bool
  task : Task
deriving DecidableEq, Repr

def defaultConfig : String := "statechat.toml"

/-!
# Switches
-/

inductive Switch where
  | config
  | verbose
  | noColor
  | json
  | quiet
  | help
  | version
deriving DecidableEq, Repr

namespace Switch

/-- The switch exists before the command, or behind the given one. -/
def isKnown (side : Option Verb) : Switch -> Bool
  | config => true
  | verbose => true
  | noColor => true
  | help => true
  | version => side == none
  | json => side == some .run
  | quiet => side == some .run

def ofLong? (side : Option Verb) (name : String) : Option Switch :=
  let found := match name with
    | "config" => some config
    | "verbose" => some verbose
    | "no-color" => some noColor
    | "json" => some json
    | "quiet" => some quiet
    | "help" => some help
    | "version" => some version
    | _ => none
  found.filter (isKnown side)

def ofShort? (side : Option Verb) (letter : Char) : Option Switch :=
  let found := match letter with
    | 'c' => some config
    | 'v' => some verbose
    | 'q' => some quiet
    | 'h' => some help
    | 'V' => some version
    | _ => none
  found.filter (isKnown side)

end Switch

/-- A value that is not checked yet. -/
inductive Pending where
  | config (value : Option String)
  | place (value : String)
deriving DecidableEq, Repr

/-- What was given on one side of the command. -/
structure Given where
  config : Option String := none
  verbose : Bool := false
  noColor : Bool := false
  json : Bool := false
  quiet : Bool := false
  place : Option String := none
  pending : Option Pending := none
deriving DecidableEq, Repr

namespace Given

abbrev Step := Except UsageError Given

def setConfig (g : Given) (value : String) : Step :=
  if g.config.isSome then .error .repeated
  else if value.isEmpty then .error .badValue
  else .ok { g with config := some value }

/-- Checks the value that waits. -/
def settle (g : Given) : Step :=
  let settled := { g with pending := none }
  match g.pending with
  | none => .ok g
  | some (.config none) => .error .badValue
  | some (.config (some value)) => settled.setConfig value
  | some (.place value) =>
      if value.isEmpty then .error .badValue else .ok { settled with place := some value }

/-- Records a switch without a value. -/
def mark (g : Given) (s : Switch) : Step := do
  let g <- g.settle
  match s with
  | .verbose => if g.verbose then throw .repeated else return { g with verbose := true }
  | .noColor => if g.noColor then throw .repeated else return { g with noColor := true }
  | .json => if g.json then throw .repeated else return { g with json := true }
  | .quiet => if g.quiet then throw .repeated else return { g with quiet := true }
  | .help => throw .help
  | .version => throw .version
  | .config => return g

/-- Records the value of the configuration; without one the next argument may be it. -/
def configure (g : Given) (value : Option String) : Step := do
  let g <- g.settle
  match value with
  | some value => g.setConfig value
  | none => return { g with pending := some (.config none) }

/-- The next argument is a value, unless it looks like a switch. -/
def awaitsValue (g : Given) : Bool :=
  g.pending == some (.config none)

/-!
# Reading arguments
-/

/-- The part before the first `=` and the part behind it. -/
def splitValue (cs : List Char) : String × Option String :=
  let name := String.ofList (cs.takeWhile (· != '='))
  match cs.dropWhile (· != '=') with
  | [] => (name, none)
  | _ :: value => (name, some (String.ofList value))

/-- An argument that begins with two dashes, without these. -/
def long (side : Option Verb) (g : Given) (cs : List Char) : Step :=
  let (name, value) := splitValue cs
  match Switch.ofLong? side name, value with
  | none, _ => .error .unknownArgument
  | some .config, value => g.configure value
  | some _, some _ => .error .surplusValue
  | some s, none => g.mark s

/-- The value that is attached to a letter, if it is not empty. -/
def attached : List Char -> Option String
  | [] => none
  | '=' :: value => some (String.ofList value)
  | value => some (String.ofList value)

/-- Letters behind one dash. -/
def short (side : Option Verb) (g : Given) : List Char -> Step
  | [] => .ok g
  | letter :: rest =>
      match Switch.ofShort? side letter with
      | none => .error .unknownArgument
      | some .config => g.configure (attached rest)
      | some s =>
          match g.mark s with
          | .ok g => short side g rest
          | .error e => .error e

/-- An argument that is neither a switch nor a value. -/
def position (side : Option Verb) (g : Given) (trailing : Bool) (arg : String) : Step :=
  match side with
  | none =>
      if trailing && (arg == "help" || (Verb.ofName? arg).isSome) then .error .unknownArgument
      else .error .unknownCommand
  | some _ =>
      let taken := match g.pending with
        | some (.place _) => true
        | _ => g.place.isSome
      if taken then .error .unknownArgument
      else g.settle.map fun g => { g with pending := some (.place arg) }

/-- An argument before any `--`. -/
def argument (side : Option Verb) (g : Given) (arg : String) : Step :=
  match arg.toList with
  | '-' :: '-' :: name => g.long side name
  | '-' :: letter :: rest => g.short side (letter :: rest)
  | _ =>
      if g.awaitsValue then .ok { g with pending := some (.config (some arg)) }
      else g.position side false arg

/-- The arguments behind `--`. -/
def places (side : Option Verb) (g : Given) : List String -> Step
  | [] => g.settle
  | arg :: rest =>
      match g.position side true arg with
      | .ok g => places side g rest
      | .error e => .error e

/-- The arguments behind a command. -/
def behind (verb : Verb) (g : Given) : List String -> Step
  | [] => g.settle
  | "--" :: rest => g.places (some verb) rest
  | arg :: rest =>
      match g.argument (some verb) arg with
      | .ok g => behind verb g rest
      | .error e => .error e

/-- What was given on both sides. -/
def merge (before behind : Given) : Given :=
  { behind with
    config := behind.config <|> before.config
    verbose := behind.verbose || before.verbose
    noColor := behind.noColor || before.noColor }

def isEmpty (g : Given) : Bool :=
  g.config.isNone && !g.verbose && !g.noColor

/-- The command line, if a place to work on was given. -/
def line (g : Given) (verb : Verb) : Except UsageError Line :=
  match g.place with
  | none => .error .missingPlace
  | some place =>
      .ok {
        config := g.config.getD defaultConfig
        verbose := g.verbose
        noColor := g.noColor
        task := match verb with
          | .run => .run place g.json g.quiet
          | .validate => .validate place
          | .index => .index place }

/-- The arguments behind a command whose other side is given. -/
def finish (before : Given) (verb : Verb) (rest : List String) : Except UsageError Line := do
  let behind <- ({} : Given).behind verb rest
  let _ <- behind.line verb
  let before <- before.settle
  (before.merge behind).line verb

/-- What `help` was asked about: nothing, or a command. -/
def helpOn : List String -> UsageError
  | [] => .help
  | [name] => if name == "help" || (Verb.ofName? name).isSome then .help else .unknownCommand
  | _ => .unknownCommand

/-- No command was named. -/
def withoutVerb (g : Given) : Except UsageError Line := do
  let g <- g.settle
  if g.isEmpty then throw .nothingGiven else throw .missingCommand

/-- The arguments from the start on, as long as no command is named. -/
def before (g : Given) : List String -> Except UsageError Line
  | [] => g.withoutVerb
  | arg :: rest =>
      if !g.awaitsValue && arg == "help" then .error (helpOn rest)
      else
        match if g.awaitsValue then none else Verb.ofName? arg with
        | some verb => g.finish verb rest
        | none =>
            if arg == "--" then (g.places none rest).bind withoutVerb
            else (g.argument none arg).bind fun g => before g rest

end Given

namespace Line

def ofArguments (args : List String) : Except UsageError Line :=
  ({} : Given).before args

end Line
end Command
end Colloquy
