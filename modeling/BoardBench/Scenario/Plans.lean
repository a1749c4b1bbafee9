import BoardBench.Harness.Test
import BoardBench.Reboot.Debugger
import BoardBench.Scenario.Scenery
import BoardBench.Sim.StandIns

/-!
# The plans of scenarios

Reads what is to be done in a scenario: images and commands, the ways to reboot, to load and to
program a board, and tests.
-/

namespace BoardBench.Scenario

open Sim Bootloader

def geometryOf (j : Json) : Geometry :=
  ⟨j.natAt "start_block", j.natAt "block_count", j.natAt "block_size", j.natAt "marker_size"⟩

def imageSpecOf (j : Json) : ImageSpec := ⟨textAt j "file", textAt j "source_id", textAt j "memory_bank"⟩

def jffsOf (j : Json) : JffsImage where
  image := imageSpecOf j
  flashDeviceId := textAt j "flash_device_id"
  cleanmarker := geometryOf (j.recordAt "cleanmarker")
  perBlockTimeout := spanAt j "per_block_timeout" (.ofMillis 1000)

def imageOf (j : Json) : FlashImage :=
  if (j.member? "cleanmarker").isSome then .jffs (jffsOf j) else .plain (imageSpecOf j)

def appOf (j : Json) : AppSpec where
  file := textAt j "file"
  sourceId := textAt j "source_id"
  imap := textAt j "imap"
  dmap := (textAt? j "dmap").getD (textAt j "imap")
  executable := j.boolAt "executable" true

def commandOf (j : Json) : Option Command :=
  match textAt j "cmd" with
  | "erase" => some (.erase (textAt j "device") (j.natAt "offset") (j.natAt "size"))
  | "jffs2" =>
    let g := geometryOf j
    some (.format (textAt j "device") (j.boolAt "erase" true) g.startBlock g.blockCount g.blockSize g.markerSize)
  | "app" =>
    some (.app (textAt j "device") (textAt j "file") (textAt j "imap") (textAt j "dmap")
      (j.boolAt "executable" true))
  | "copy" =>
    some (.copy (textAt j "src") (textAt j "src_obj") (j.natAt? "src_size")
      (textAt j "dst") (textAt j "dst_obj") (j.natAt? "dst_size"))
  | "alias" => some (.nameRange (textAt j "name") (j.natAt "offset") (j.natAt "size"))
  | "go" => some .go
  | _ => none

def windowOf (j : Json) : RamWindow := ⟨textAt j "device", j.natAt "offset", j.natAt "size"⟩

def timingsOf (j : Json) : RebootTimings :=
  let base : RebootTimings := {}
  { powerOff := spanAt j "power_off" base.powerOff
    powerOn := spanAt j "power_on" base.powerOn
    resetPulse := spanAt j "reset_pulse" base.resetPulse }

def rebooterOf (j : Option Json) : Rebooter World :=
  let j := j.getD (.obj [])
  match textAt j "kind" with
  | "gpio" =>
    let error := (errorAt? j "error").getD (.reboot "")
    let script : LineScript := {
      failOn := (textAt? j "fail_on").map (·, error)
      prints := match j.member? "emit" with
        | some (.obj members) => members.map fun (k, v) => (k, emissionsOf v)
        | _ => [] }
    .byLines {
      power := standInLine "power" script
      reset := if j.boolAt "reset" false then some (standInLine "reset" script) else none
      boot := if j.boolAt "boot" false then some (standInLine "boot" script) else none
      timings := timingsOf (j.recordAt "timings") }
  | "debugger" =>
    .debugger (helperAt j "service") (spanAt j "exit_timeout" Rebooter.probeExitTimeout)
  | "stub" =>
    standInRebooter ((j.itemsAt "outs").map emissionsOf)
      ((j.itemsAt "fail").map fun e => if e.isNull then none else some (errorOf e))
  | _ => .emulator

def rebootOptionsOf (j : Json) : RebootOptions :=
  match j with
  | .str "SOFT" => .soft
  | .str "HARD" => ⟨false, true⟩
  | .str "FLASH" => .forFlash
  | j => ⟨j.boolAt "flash" false, j.boolAt "hard" false⟩

def loaderOf (j : Json) : Loader World :=
  match textAt j "kind" with
  | "plo" => .ofWindow (windowOf (j.recordAt "ram")) (helperAt j "service") appCopyTimeout
  | _ => standInLoader (errorAt? j "error") (textAt? j "cmd")

def flasherOf (j : Json) : Flasher World :=
  match textAt j "kind" with
  | "plo" =>
    .ofImage (imageOf (j.recordAt "image")) (helperAt j "service")
      (spanAt j "copy_timeout" imageCopyTimeout)
  | _ =>
    let steps := (j.itemsAt "progress").map fun step =>
      match step with
      | .arr [name, done, total] => (textOf name, done.nat?.getD 0, total.nat?.getD 0)
      | _ => ("", 0, 0)
    standInFlasher (j.boolAt "reboot" false) steps (errorAt? j "error")

def targetConfigOf (j : Option Json) : TargetConfig :=
  let j := j.getD (.obj [])
  let base : TargetConfig := {
    name := (textAt? j "name").getD "stub-target"
    console := .process { program := "unused" }
    kernelLogOff := textAt? j "kernel_log_off"
    kernelLogOn := textAt? j "kernel_log_on" }
  { base with
    shellPrompt := (textAt? j "shell_prompt").getD base.shellPrompt
    bootupTimeout := spanAt j "bootup_timeout" base.bootupTimeout }

def statusOf (j : Json) : Status :=
  match textOf j with
  | "FAIL" => .fail
  | "SKIP" => .skip
  | _ => .ok

def stageOf (j : Json) : FailureStage := if textOf j == "FLASH" then .flash else .run

/-- Reads what a body is told to do. -/
def bodyActOf (j : Json) : BodyAct :=
  match j.member? "sub", j.member? "fail", j.member? "skip" with
  | some (.arr [n, s, m]), _, _ => .part (textOf n) (statusOf s) (textOf m)
  | _, some (.arr [s, m]), _ => .fail (stageOf s) (textOf m)
  | _, _, some m => .skip (textOf m)
  | _, _, _ =>
    match j.member? "send_line", j.member? "expect", j.member? "error" with
    | some line, _, _ => .sendLine (Bytes.ofText (textOf line))
    | _, some p, _ => .expect (patternOf p)
    | _, _, some e => .error (errorOf e)
    | _, _, _ => .part "" .ok ""

/-- Reads a body: one that is told what to do, or one that expects patterns. -/
def bodyOf (j : Json) : Except Error (Body World) := do
  match j.member? "script" with
  | some (.arr acts) =>
    return standInBody (if j.boolAt "closure" false then none else textAt? j "command")
      (acts.map bodyActOf)
  | _ => return .expecting (textAt? j "command") (← patternsOf j "expect")

def testOf (j : Json) : Except Error (Test World) := do
  let body ← bodyOf (j.recordAt "body")
  return {
    name := textAt j "name"
    shouldReboot := j.boolAt "should_reboot" true
    bootloader := (j.member? "apps").map fun apps => ((apps.arr?).getD []).map appOf
    shell := (j.member? "shell").map fun s => ⟨textAt? s "prompt", spanAt? s "bootup_timeout"⟩
    body
    ignore := j.boolAt "ignore" false
    timeout := spanAt j "timeout" (.ofSeconds 30)
    suppressKernelLog := j.boolAt "suppress" false }

end BoardBench.Scenario
