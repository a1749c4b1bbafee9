import BoardBench.Scenario.Values
import BoardBench.Sim.World

/-!
# The scenery of scenarios

Reads what stands on the simulated bench of a scenario: the board, the files, and the programs that
run as helpers and emulators. Such a program is told what to print, when, and how to end.
-/

namespace BoardBench.Scenario

open Sim

/-- An item, or a list of items. -/
def emissionsOf (j : Json) : List Emission :=
  let one (j : Json) : Emission :=
    let delay := spanAt j "delay" .zero
    match j.member? "fail", j.member? "eof", j.member? "data" with
    | some kind, _, _ => ⟨.fault (faultKindOf (textOf kind)), delay⟩
    | _, some (.bool true), _ => ⟨.ended, delay⟩
    | _, _, some data => ⟨.data (bytesOf data), delay⟩
    | _, _, _ => ⟨.data (bytesOf j), delay⟩
  match j with
  | .arr items => items.map one
  | .null => []
  | j => [one j]

def emissionsAt (j : Json) (k : String) : List Emission := ((j.member? k).map emissionsOf).getD []

def boardOf (j : Json) : Board :=
  let board : Board := {
    name := (textAt? j "name").getD "scripted"
    rules := (j.itemsAt "rules").map fun r =>
      ⟨bytesAt r "on", emissionsAt r "reply", r.boolAt "repeat" false⟩
    reopenOut := (j.itemsAt "reopen_out").map emissionsOf
    endsWhenIdle := j.boolAt "idle_eof" false
    writeChunk := j.natAt? "write_chunk"
    writeLimit := j.natAt? "write_limit"
    clearFault := (textAt? j "clear_error").map faultKindOf
    closeFault := (textAt? j "close_error").map faultKindOf
    canReopen := !j.boolAt "no_reopen" false }
  board.emit 0 (emissionsAt j "out")

def boardAt (j : Json) (k : String) : Board := boardOf (j.recordAt k)

/-- Files: a number is the size of a file of zeros. -/
def filesOf (j : Json) : FileTree :=
  match j.member? "files" with
  | some (.obj members) =>
    members.foldl (fun t (name, v) =>
      match v with
      | .int (.ofNat n) => t.put name (.zeros n)
      | .str _ => t.put name .directory
      | v =>
        match v.member? "link" with
        | some target => t.put name (.link (textOf target))
        | none => t.put name (.file (bytesAt v "text") (v.boolAt "exec" false))) .empty
  | _ => .empty

def worldOf (j : Json) : World := { board := boardAt j "port", files := filesOf j }

/-- The script of a helper or an emulator. -/
def scriptOf (j : Json) : String :=
  let print (v : Json) : String :=
    "printf '" ++ String.join ((bytesOf v).map fun b =>
      "\\" ++ Text.padZeros 3 (String.ofList (Nat.toDigits 8 b.toNat))) ++ "'"
  let step (v : Json) : String :=
    match v.member? "print", v.member? "eprint", v.member? "sleep" with
    | some b, _, _ => print b ++ "\n"
    | _, some b, _ => print b ++ " >&2\n"
    | _, _, some (.int (.ofNat ms)) =>
      "sleep " ++ toString (ms / 1000) ++ "." ++ Text.padZeros 3 (toString (ms % 1000)) ++ "\n"
    | _, _, _ => ""
  let stubborn := textAt j "end" == "stubborn"
  let finish := match j.member? "end" with
    | some (.str "cat") => "exec cat\n"
    | some (.str "stubborn") => "while :; do sleep 1; done\n"
    | some (.obj members) =>
      match (Json.obj members).member? "exit", (Json.obj members).member? "signal" with
      | some (.int n), _ => "exit " ++ toString n ++ "\n"
      | _, some signal => "kill -" ++ textOf signal ++ " $$\n"
      | _, _ => ""
    | _ => "exec sleep 1000000\n"
  (if stubborn then "trap '' TERM\n" else "") ++
    (if j.boolAt "orphan" false then "setsid sleep 0.6 &\n" else "") ++
    String.join ((j.itemsAt "script").map step) ++ finish

def launchOf (j : Json) : String × List String :=
  ((textAt? j "program").getD "sh", ["-c", scriptOf j])

def helperOf (j : Json) : HelperSpec :=
  let base : HelperSpec := match textAt j "preset" with
    | "phoenixd" => .fileServer (textAt j "port") (j.natAt "baud") (textAt j "dir")
    | "openocd" => .debugProbe ((j.itemsAt "args").map textOf)
    | _ =>
      let (program, args) := launchOf j
      { program, args, marker := textAt j "marker" }
  let base := match textAt? j "cwd" with
    | some dir => { base with cwd := some dir }
    | none => base
  let base := match textAt? j "wait_for_path" with
    | some path => { base with waitForPath := some path, pathTimeout := spanAt j "path_timeout" (.ofMillis 50) }
    | none => base
  { base with
    readyTimeout := spanAt j "ready_timeout" base.readyTimeout
    stopTimeout := spanAt j "stop_timeout" base.stopTimeout }

def helperAt (j : Json) (k : String) : HelperSpec := helperOf (j.recordAt k)

def processOf (j : Json) : ProcessConfig :=
  let (program, args) := launchOf j
  { program, args, cwd := textAt? j "cwd", stopTimeout := spanAt j "stop_timeout" (.ofMillis 1000) }

end BoardBench.Scenario
