import BoardBench.Config.Entries
import BoardBench.Failure

/-!
# What a configuration says

From a configuration and what the command line chose: the target, the host and the tests of a run.
-/

namespace BoardBench

namespace TargetEntry

/-- How the console is reached; a board needs a port. -/
def console (t : TargetEntry) (name : String) (port : Option String) : Except CommandFailure ConsoleKind :=
  match t.emulator, port with
  | some e, _ => .ok (.process { program := e.program, args := e.args, cwd := e.cwd })
  | none, some port => .ok (.serial { port, baud := t.baud.getD defaultBaud })
  | none, none =>
    .error (.usage ("target " ++ name ++ " is a physical board; pass --port or set its port"))

/-- The description of the target of a name. -/
def resolve (t : TargetEntry) (name : String) (port : Option String) :
    Except CommandFailure TargetConfig := do
  if t.fileServer.isNone && (t.flashImage.isSome || t.ramWindow.isSome) then
    throw (.config ("target " ++ name ++ ": flash_image and ram_window need a phoenixd table"))
  let console ← t.console name port
  if t.kernelLogOff.isSome != t.kernelLogOn.isSome then
    throw (.config ("target " ++ name ++ ": kernel_log_off and kernel_log_on must be set together"))
  let plain : TargetConfig := { name, console }
  return { plain with
    shellPrompt := t.shellPrompt.getD plain.shellPrompt
    bootupTimeout := (t.bootupTimeout.map Span.ofSeconds).getD plain.bootupTimeout
    kernelLogOff := t.kernelLogOff
    kernelLogOn := t.kernelLogOn
    ramWindow := t.ramWindow
    flashImage := t.flashImage
    fileServer := t.fileServer }

end TargetEntry

/-- The host of an entry. -/
def HostEntry.resolve (h : HostEntry) : HostConfig :=
  let plain : HostConfig := { kind := h.kind }
  { plain with
    pins := h.pins
    modem := h.modem
    debugger := h.debugger
    interactiveTimeout := (h.interactiveTimeout.map Span.ofSeconds).getD plain.interactiveTimeout }

namespace TestEntry

variable {δ : Type} [Bench δ] [Transport δ]

/-- The pattern of one thing that is expected. -/
def pattern (regexes : Regexes) (t : TestEntry) (text : String) : Except CommandFailure Pattern :=
  if t.regex then
    match Pattern.ofRegex? regexes text with
    | .ok p => .ok p
    | .error e => .error (.config ("test " ++ t.name ++ ": " ++ e.message))
  else .ok (.text text)

/-- The test of an entry. -/
def resolve (t : TestEntry) : Except CommandFailure (Test δ) := do
  if t.command.isNone && t.expect.isEmpty then
    throw (.config ("test " ++ t.name ++ ": needs a command or expected output"))
  let patterns ← t.expect.mapM (t.pattern (Bench.libraries δ).regexes)
  let plain : Test δ := { name := t.name, body := .expecting t.command patterns }
  return { plain with
    shell := if t.shell then some { prompt := t.prompt } else none
    bootloader := if t.bootloader || !t.apps.isEmpty then some t.apps else none
    timeout := (t.timeout.map Span.ofSeconds).getD plain.timeout
    suppressKernelLog := t.suppressKernelLog
    ignore := t.ignore }

end TestEntry

namespace Config

/-- The target that was chosen, or the default one. -/
def target (c : Config) (chosen : Option String) : Except CommandFailure (String × TargetEntry) :=
  match chosen.or c.defaults.target with
  | none => .error (.usage "no target selected; pass --target or set defaults.target")
  | some name =>
    match c.targets.lookup name with
    | some entry => .ok (name, entry)
    | none => .error (.config ("unknown target `" ++ name ++ "`"))

/-- The host that was chosen, by name or kind, or the default one; if there is none, the one that fits
the target. -/
def host (c : Config) (chosen : Option String) (emulated : Bool) : Except CommandFailure HostConfig :=
  match chosen.or c.defaults.host with
  | none => .ok { kind := if emulated then .emulator else .pc }
  | some name =>
    match c.hosts.lookup name with
    | some entry => .ok entry.resolve
    | none =>
      match HostKind.ofName? name with
      | .ok kind => .ok { kind }
      | .error e => .error (.config e.message)

/-- The tests of a target, in order; only those that are named, if any are. -/
def testsFor {δ : Type} [Bench δ] [Transport δ] (c : Config) (target : String) (only : List String) :
    Except CommandFailure (List (Test δ)) := do
  match only.find? fun name => !c.tests.any (·.name == name) with
  | some name => throw (.usage ("unknown test `" ++ name ++ "`"))
  | none =>
    (c.tests.filter fun t => t.runsOn target && (only.isEmpty || only.contains t.name)).mapM
      TestEntry.resolve

/-- An entry of a table, put in its place. -/
def insertEntry {α : Type} (entry : String × α) (table : List (String × α)) : List (String × α) :=
  Json.tableOf?.insertEntry entry table

/-- A configuration with another on top of it: of two entries of a name the other's counts, and its
tests come last. -/
def merge (c other : Config) : Config where
  defaults := {
    target := other.defaults.target.or c.defaults.target
    host := other.defaults.host.or c.defaults.host }
  targets := other.targets.foldl (fun table entry => insertEntry entry table) c.targets
  hosts := other.hosts.foldl (fun table entry => insertEntry entry table) c.hosts
  tests := c.tests ++ other.tests

end Config
end BoardBench
