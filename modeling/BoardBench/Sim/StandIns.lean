import BoardBench.Reboot.Lines
import BoardBench.Sim.World

/-!
# Stand-ins

Parts that play their role on a simulated bench: they take note of being used, do what they were told
to do, and fail when they were told to fail.
-/

namespace BoardBench.Sim

/-- The entry of a number; the last one stays in use. -/
def nthOrLast {α : Type} (xs : List α) (n : Nat) : Option α := xs[min n (xs.length - 1)]?

/-- Lets the board print. -/
def printItems (es : List Emission) : World → World := fun w => { w with board := w.board.emit w.now es }

/-- How often stand-ins were asked for a reboot. -/
def rebootCalls (w : World) : Nat := (w.events.filter fun (e, _) => e matches .reboot _).length

/-- A rebooter that fails at its n-th call if there is an n-th fault, and else has the board print. -/
def standInRebooter (outs : List (List Emission)) (faults : List (Option Error)) : Rebooter World where
  name := "stub"
  reboot options := do
    let n := rebootCalls (← Act.state).device
    Session.touch (World.record (.reboot options))
    match faults[n]? with
    | some (some e) => Act.fail e
    | _ =>
      Session.clearBuffer
      Session.touch (printItems ((nthOrLast outs n).getD []))

/-- What a line does when it is driven. -/
structure LineScript where
  /-- The setting that fails, and how. -/
  failOn : Option (String × Error) := none
  /-- What the board prints at a setting. -/
  prints : List (String × List Emission) := []

/-- A line that takes note of being driven. -/
def standInLine (name : String) (script : LineScript) : OutputLine World where
  name := "line-" ++ name
  drive active := fun w =>
    let setting := name ++ "=" ++ (if active then "1" else "0")
    let w := w.record (.line setting w.board.tally.clears)
    match script.failOn with
    | some (bad, e) =>
      if bad == setting then (.error e, w)
      else (.ok (), printItems (((script.prints.find? (·.1 == setting)).map (·.2)).getD []) w)
    | none => (.ok (), printItems (((script.prints.find? (·.1 == setting)).map (·.2)).getD []) w)

/-- A loader that fails if it has a fault, and else runs a command if it has one. -/
def standInLoader (fault : Option Error) (command : Option String) : Loader World where
  load apps := do
    Bootloader.Client.onSession
      (Session.touch (World.record (.load (apps.map fun a => servedName a.file))))
    match fault, command with
    | some e, _ => Act.fail e
    | none, some c => let _ ← Bootloader.Client.runCommand c (.ofSeconds 1)
    | none, none => return ()

/-- A flasher that reboots the board if told so, reports progress, and then fails if it has a fault. -/
def standInFlasher (reboots : Bool) (steps : List (String × Nat × Nat)) (fault : Option Error) :
    Flasher World where
  flash rebooter progress := do
    if reboots then rebooter.reboot .forFlash
    Session.touch fun w => steps.foldl (fun w (step, done, total) => progress step done total w) w
    match fault with
    | some e => Act.fail e
    | none => return ()

/-- What a body is told to do. -/
inductive BodyAct where
  | part (name : String) (status : Status) (message : String)
  | fail (stage : FailureStage) (message : String)
  /-- Puts a skipped verdict in place of the one so far. -/
  | skip (message : String)
  | sendLine (line : Bytes)
  /-- Waits for a pattern, which may turn out to be none. -/
  | expect (pattern : Except Error Pattern)
  | error (e : Error)

/-- Does what the body of a test is told to do. -/
def BodyAct.perform (timeout : Span) : BodyAct → Act (Trial World) Unit
  | .part name status message => Trial.judge (Verdict.addPart name status message)
  | .fail stage message => Trial.judge (Verdict.fail stage message)
  | .skip message => Trial.judge fun _ => .skipped message
  | .sendLine line => Trial.onSession (Session.sendLine line)
  | .expect pattern => Trial.onSession do
    let pattern ← Act.ofExcept pattern
    let _ ← Session.expect [pattern] timeout
  | .error e => Act.fail e

/-- A body that takes note of being run. -/
def standInBody (command : Option String) (acts : List BodyAct) : Body World where
  command
  run timeout := do
    Trial.onSession (Session.touch (World.record .body))
    for act in acts do
      act.perform timeout

/-- Takes note of everything that is reported; stops the run once it was asked so often. -/
def recordingWatcher (stopAfter : Option Nat) : Watcher World where
  flashProgress step done total := World.record (.progress step done total)
  tell r := World.record (.report r)
  interrupted w :=
    ((stopAfter.map fun n => decide (n ≤ w.checks)).getD false, { w with checks := w.checks + 1 })

end BoardBench.Sim
