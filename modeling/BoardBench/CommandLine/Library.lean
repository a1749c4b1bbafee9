import BoardBench.CommandLine.Grammar

/-!
# A library for command lines

Command lines are read by a library, which also writes the help texts and the completion scripts from the
description of a program. It is not a part of the bench, and nothing but its answers is known of it.
-/

namespace BoardBench.CommandLine

/-- The values of the options of a call, by the names of the options. -/
structure Settings where
  values : List (String × List String)
  deriving DecidableEq, Repr

namespace Settings

def all (name : String) (s : Settings) : List String := (s.values.lookup name).getD []

def value? (name : String) (s : Settings) : Option String := (s.all name).getLast?

/-- How often an option was given. -/
def count (name : String) (s : Settings) : Nat := (s.all name).length

def isSet (name : String) (s : Settings) : Bool := s.value? name == some "true"

end Settings

/-- What a command line asks for. -/
inductive Asked where
  /-- To be shown a text: help, or the version. -/
  | text (text : String)
  /-- A command is called. -/
  | call (command : String) (settings : Settings)
  deriving DecidableEq, Repr

/-- A shell that a completion script can be made for. -/
inductive CompletedShell where
  | bash | elvish | fish | powerShell | zsh
  deriving DecidableEq, Repr

namespace CompletedShell

def all : List CompletedShell := [bash, elvish, fish, powerShell, zsh]

def name : CompletedShell → String
  | bash => "bash"
  | elvish => "elvish"
  | fish => "fish"
  | powerShell => "powershell"
  | zsh => "zsh"

end CompletedShell

/-- A library for command lines. -/
structure Library where
  /-- What a command line asks for, in an environment, or in words what is wrong with it. -/
  read : ProgramSpec → (String → Option String) → List String → Except String Asked
  /-- The completion script of a program. -/
  script : CompletedShell → ProgramSpec → String

end BoardBench.CommandLine
