import BoardBench.Harness.Test
import BoardBench.Host.Record
import BoardBench.Image.Record
import BoardBench.Target.Config

/-!
# Entries of configurations

What a configuration holds as it is written: targets and hosts by name, tests in order, and what is
chosen when nothing else is said. Times are given in seconds.
-/

namespace BoardBench

/-- What is chosen when nothing else is said. -/
structure Defaults where
  target : Option String := none
  /-- Name of a host or kind of one. -/
  host : Option String := none
  deriving DecidableEq, Repr

/-- The command line of an emulator. -/
structure EmulatorEntry where
  program : String
  args : List String
  cwd : Option String
  deriving DecidableEq, Repr

/-- A target. -/
structure TargetEntry where
  /-- Device of the console of a board. -/
  port : Option String := none
  baud : Option Nat := none
  /-- Given if the target is emulated. -/
  emulator : Option EmulatorEntry := none
  shellPrompt : Option String := none
  bootupTimeout : Option Nat := none
  kernelLogOff : Option String := none
  kernelLogOn : Option String := none
  ramWindow : Option RamWindow := none
  flashImage : Option FlashImage := none
  fileServer : Option FileServer := none
  deriving DecidableEq, Repr

/-- A host. -/
structure HostEntry where
  kind : HostKind
  pins : PinNumbers
  modem : Option String
  debugger : Option (List String)
  interactiveTimeout : Option Nat
  deriving DecidableEq, Repr

/-- A test: a command and the output that it must bring. -/
structure TestEntry where
  name : String
  command : Option String
  /-- What is expected, in order. -/
  expect : List String
  /-- Whether that is regular expressions. -/
  regex : Bool
  /-- Whether the shell is waited for first. -/
  shell : Bool
  prompt : Option String
  timeout : Option Nat
  ignore : Bool
  suppressKernelLog : Bool
  /-- Targets that it runs on; all if none is named. -/
  targets : List String
  apps : List AppSpec
  /-- Whether to pass through the bootloader even without applications. -/
  bootloader : Bool
  deriving DecidableEq, Repr

/-- A configuration; its tables are in the order of the names. -/
structure Config where
  defaults : Defaults := {}
  targets : List (String × TargetEntry) := []
  hosts : List (String × HostEntry) := []
  tests : List TestEntry := []
  deriving DecidableEq, Repr

/-- Speed of a serial line that says nothing of it. -/
def defaultBaud : Nat := 115200

/-- Times, offsets and sizes stay below this. -/
def longBound : Nat := 0x10000000000000000

namespace Defaults

def fields : FieldReader Defaults := do
  let target ← Json.fieldOr "target" (Json.orNull? Json.str?) none
  let host ← Json.fieldOr "host" (Json.orNull? Json.str?) none
  return { target, host }

def ofJson? : Json → Option Defaults := Json.record? fields

end Defaults

namespace EmulatorEntry

def fields : FieldReader EmulatorEntry := do
  let program ← Json.field "program" Json.str?
  let args ← Json.fieldOr "args" (Json.listOf? Json.str?) []
  let cwd ← Json.fieldOrNull "cwd" Json.str?
  return { program, args, cwd }

def ofJson? : Json → Option EmulatorEntry := Json.record? fields

end EmulatorEntry

namespace RamWindow

def fields : FieldReader RamWindow := do
  let device ← Json.field "device" Json.str?
  let offset ← Json.field "offset" (Json.below? longBound)
  let size ← Json.field "size" (Json.below? longBound)
  return { device, offset, size }

def ofJson? : Json → Option RamWindow := Json.record? fields

end RamWindow

namespace FileServer

def fields : FieldReader FileServer := do
  let port ← Json.field "port" Json.str?
  let baud ← Json.fieldOr "baud" (Json.below? wordBound) defaultBaud
  let dir ← Json.field "dir" Json.str?
  return { port, baud, dir }

def ofJson? : Json → Option FileServer := Json.record? fields

end FileServer

namespace TargetEntry

/-- The fields of a target, all of which may be missing. -/
def fields : FieldReader TargetEntry := do
  let text : Json → Option (Option String) := Json.orNull? Json.str?
  let port ← Json.fieldOr "port" text none
  let baud ← Json.fieldOr "baud" (Json.orNull? (Json.below? wordBound)) none
  let emulator ← Json.fieldOr "emulator" (Json.orNull? EmulatorEntry.ofJson?) none
  let shellPrompt ← Json.fieldOr "shell_prompt" text none
  let bootupTimeout ← Json.fieldOr "bootup_timeout" (Json.orNull? (Json.below? longBound)) none
  let kernelLogOff ← Json.fieldOr "kernel_log_off" text none
  let kernelLogOn ← Json.fieldOr "kernel_log_on" text none
  let ramWindow ← Json.fieldOr "ram_window" (Json.orNull? RamWindow.ofJson?) none
  let flashImage ← Json.fieldOr "flash_image" (Json.orNull? FlashImage.ofJson?) none
  let fileServer ← Json.fieldOr "phoenixd" (Json.orNull? FileServer.ofJson?) none
  return { port, baud, emulator, shellPrompt, bootupTimeout, kernelLogOff, kernelLogOn, ramWindow,
           flashImage, fileServer }

def ofJson? : Json → Option TargetEntry := Json.record? fields

def isEmulated (t : TargetEntry) : Bool := t.emulator.isSome

end TargetEntry

namespace HostEntry

def fields : FieldReader HostEntry := do
  let kind ← Json.field "kind" HostKind.ofJson?
  let pins ← Json.fieldOr "gpio" PinNumbers.ofJson? {}
  let modem ← Json.fieldOrNull "modem" Json.str?
  let debugger ← Json.fieldOrNull "debugger" (Json.listOf? Json.str?)
  let interactiveTimeout ← Json.fieldOrNull "interactive_timeout" (Json.below? longBound)
  return { kind, pins, modem, debugger, interactiveTimeout }

def ofJson? : Json → Option HostEntry := Json.record? fields

end HostEntry

namespace TestEntry

def fields : FieldReader TestEntry := do
  let name ← Json.field "name" Json.str?
  let command ← Json.fieldOrNull "command" Json.str?
  let expect ← Json.fieldOr "expect" (Json.listOf? Json.str?) []
  let regex ← Json.fieldOr "regex" Json.bool? false
  let shell ← Json.fieldOr "shell" Json.bool? true
  let prompt ← Json.fieldOrNull "prompt" Json.str?
  let timeout ← Json.fieldOrNull "timeout" (Json.below? longBound)
  let ignore ← Json.fieldOr "ignore" Json.bool? false
  let suppressKernelLog ← Json.fieldOr "suppress_kernel_log" Json.bool? false
  let targets ← Json.fieldOr "targets" (Json.listOf? Json.str?) []
  let apps ← Json.fieldOr "apps" (Json.listOf? AppSpec.ofJson?) []
  let bootloader ← Json.fieldOr "bootloader" Json.bool? false
  return { name, command, expect, regex, shell, prompt, timeout, ignore, suppressKernelLog, targets,
           apps, bootloader }

def ofJson? : Json → Option TestEntry := Json.record? fields

/-- Whether the test is one for a target. -/
def runsOn (t : TestEntry) (target : String) : Bool := t.targets.isEmpty || t.targets.contains target

end TestEntry

namespace Config

def fields : FieldReader Config := do
  let defaults ← Json.fieldOr "defaults" Defaults.ofJson? {}
  let targets ← Json.fieldOr "targets" (Json.tableOf? TargetEntry.ofJson?) []
  let hosts ← Json.fieldOr "hosts" (Json.tableOf? HostEntry.ofJson?) []
  let tests ← Json.fieldOr "tests" (Json.listOf? TestEntry.ofJson?) []
  return { defaults, targets, hosts, tests }

/-- Reads a configuration. What it does not know is left out. -/
def ofJson? : Json → Option Config := Json.record? fields

end Config
end BoardBench
