import BoardBench.CommandLine.Library

/-!
# The program's own command line

The options and commands of the program that runs the bench, and what a call of it asks for.
-/

namespace BoardBench.CommandLine

/-- The options that all commands share. -/
def sharedOptions : List OptionSpec := [
  { long := "target", short := some 't', role := .value "TARGET", standIn? := some "PLOTEST_TARGET"
    about := "Target to run on" },
  { long := "host", role := .value "HOST", standIn? := some "PLOTEST_HOST"
    about := "Host driving the target: a configured host name or rpi, pc, emulator" },
  { long := "port", short := some 'p', role := .value "PORT", standIn? := some "PLOTEST_PORT"
    about := "Serial port of a physical target" },
  { long := "verbose", short := some 'v', role := .count
    about := "More logging (-v debug, -vv trace with timestamps)" },
  { long := "quiet", short := some 'q', role := .flag
    about := "Only print failures and the summary" },
  { long := "non-interactive", role := .flag, standIn? := some "PLOTEST_NON_INTERACTIVE"
    about := "Never prompt; fail when a choice is needed" },
  { long := "config", role := .path "PATH", standIn? := some "PLOTEST_CONFIG"
    about := "Read this file instead of the global and local plotest.toml" },
  { long := "session-log", role := .path "PATH"
    about := "Copy all console traffic to a file" }]

def runCommand : CommandSpec where
  name := "run"
  about := "Flash the device image, then run the tests"
  options := [
    { long := "no-flash", role := .flag, about := "Skip flashing" },
    { long := "no-test", role := .flag, about := "Skip the tests" },
    { long := "nightly", role := .flag, about := "Reboot before every test" },
    { long := "test", role := .values "NAME", about := "Only run the named test (can be repeated)" }]

def flashCommand : CommandSpec where
  name := "flash"
  about := "Flash the device image only"

def listPortsCommand : CommandSpec where
  name := "list-ports"
  about := "List available serial ports"
  options := [{ long := "json", role := .flag, about := "Output port list as JSON to stdout" }]

def completionsCommand : CommandSpec where
  name := "completions"
  about := "Generate shell completion scripts"
  operand := some {
    name := "SHELL"
    choices := CompletedShell.all.map (·.name)
    about := "Shell to generate the script for" }

/-- The program. -/
def program : ProgramSpec where
  name := "plotest"
  version := "0.3.0"
  about := "Command-line runner for plotest hardware-in-the-loop suites"
  closing := "Targets, hosts and tests are declared in plotest.toml."
  shared := sharedOptions
  commands := [runCommand, flashCommand, listPortsCommand, completionsCommand]

/-- What was chosen for all commands. -/
structure Choices where
  target : Option String := none
  host : Option String := none
  port : Option String := none
  verbosity : Nat := 0
  quiet : Bool := false
  nonInteractive : Bool := false
  configFile : Option String := none
  sessionLog : Option String := none
  deriving DecidableEq, Repr

/-- A command with its own options. -/
inductive Request where
  | run (noFlash noTest nightly : Bool) (only : List String)
  | flash
  | listPorts (json : Bool)
  | completions (shell : CompletedShell)
  deriving DecidableEq, Repr

namespace Settings

def choices (s : Settings) : Choices where
  target := s.value? "target"
  host := s.value? "host"
  port := s.value? "port"
  verbosity := s.count "verbose"
  quiet := s.isSet "quiet"
  nonInteractive := s.isSet "non-interactive"
  configFile := s.value? "config"
  sessionLog := s.value? "session-log"

/-- The command of a name, with its options. -/
def request? (command : String) (s : Settings) : Option Request :=
  match command with
  | "run" => some (.run (s.isSet "no-flash") (s.isSet "no-test") (s.isSet "nightly") (s.all "test"))
  | "flash" => some .flash
  | "list-ports" => some (.listPorts (s.isSet "json"))
  | "completions" => do
    let name ← s.value? "SHELL"
    let shell ← CompletedShell.all.find? (·.name == name)
    return .completions shell
  | _ => none

end Settings
end BoardBench.CommandLine
