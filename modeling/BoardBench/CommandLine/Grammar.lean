/-!
# Command lines

What a program understands on its command line, as data: options that are shared by all of its
commands, the commands with options of their own, and at most one operand for a command. From this the
reader, the help texts and the completion scripts are made; `ProgramSpec.pages` is the view that they
share, one page for the program and one for each command.
-/

namespace BoardBench.CommandLine

/-- What an option does. -/
inductive Role where
  /-- Is given or not. -/
  | flag
  /-- Is given any number of times. -/
  | count
  /-- Takes a value, called so in texts. -/
  | value (what : String)
  /-- Takes a value and may be repeated. -/
  | values (what : String)
  /-- Takes a path, which is not empty. -/
  | path (what : String)
  /-- Asks for help. -/
  | help
  /-- Asks for the version. -/
  | version
  deriving DecidableEq, Repr

/-- An option. -/
structure OptionSpec where
  /-- Its name, which follows two dashes. -/
  long : String
  /-- The letter that may follow one dash instead. -/
  short : Option Char := none
  role : Role
  /-- The environment variable that stands in for it. -/
  standIn? : Option String := none
  about : String
  deriving DecidableEq, Repr

namespace OptionSpec

/-- What its value is called, if it takes one. -/
def operandName? (o : OptionSpec) : Option String :=
  match o.role with
  | .value what | .values what | .path what => some what
  | _ => none

def takesValue (o : OptionSpec) : Bool := o.operandName?.isSome

/-- Whether it may be given more than once. -/
def repeats (o : OptionSpec) : Bool :=
  match o.role with
  | .count | .values _ => true
  | _ => false

/-- The option as it is shown. -/
def shown (o : OptionSpec) : String :=
  "--" ++ o.long ++
    match o.role with
    | .value what | .values what | .path what => " <" ++ what ++ ">"
    | .count => "..."
    | _ => ""

def helpOption : OptionSpec := { long := "help", short := some 'h', role := .help, about := "Print help" }

def versionOption : OptionSpec :=
  { long := "version", short := some 'V', role := .version, about := "Print version" }

end OptionSpec

/-- An operand that must be one of some words. -/
structure OperandSpec where
  name : String
  choices : List String
  about : String
  deriving DecidableEq, Repr

/-- A command. -/
structure CommandSpec where
  name : String
  about : String
  options : List OptionSpec := []
  operand : Option OperandSpec := none
  deriving DecidableEq, Repr

/-- A program. -/
structure ProgramSpec where
  name : String
  version : String
  about : String
  /-- The end of its help text. -/
  closing : String
  /-- Options that may stand before a command and after it. -/
  shared : List OptionSpec
  commands : List CommandSpec
  deriving DecidableEq, Repr

/-- All that can stand at one place of the command line. -/
structure Page where
  /-- The names that lead here, the program's first. -/
  path : List String
  about : String
  options : List OptionSpec := []
  operand : Option OperandSpec := none
  /-- Names of the commands that can follow, and what they do. -/
  commands : List (String × String) := []
  closing : String := ""
  deriving DecidableEq, Repr

namespace ProgramSpec

/-- The name of the command that shows help. -/
def helpName : String := "help"

def helpAbout : String := "Print this message or the help of the given subcommand(s)"

/-- Names of all commands, and what they do. -/
def summaries (p : ProgramSpec) : List (String × String) :=
  (p.commands.map fun c => (c.name, c.about)) ++ [(helpName, helpAbout)]

/-- The page of the program. -/
def mainPage (p : ProgramSpec) : Page where
  path := [p.name]
  about := p.about
  options := p.shared ++ [.helpOption, .versionOption]
  commands := p.summaries
  closing := p.closing

/-- The page of a command. -/
def commandPage (p : ProgramSpec) (c : CommandSpec) : Page where
  path := [p.name, c.name]
  about := c.about
  options := c.options ++ p.shared ++ [.helpOption, .versionOption]
  operand := c.operand

/-- The page of the command that shows help. -/
def helpPage (p : ProgramSpec) : Page where
  path := [p.name, helpName]
  about := helpAbout
  commands := p.summaries

/-- All pages; below the one of the command that shows help there is one for each command. -/
def pages (p : ProgramSpec) : List Page :=
  p.mainPage :: p.commands.map p.commandPage ++
    p.helpPage :: p.summaries.map fun (name, about) => { path := [p.name, helpName, name], about }

end ProgramSpec
end BoardBench.CommandLine
