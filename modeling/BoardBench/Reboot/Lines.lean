import BoardBench.Machine.Files
import BoardBench.Machine.SerialLines
import BoardBench.Reboot.Basic
import BoardBench.Text.Path

/-!
# Reboots by wire

Boards whose power, reset and boot select lines are driven by the host. The bytes that were waiting
are dropped while the board is held, so that nothing of the previous boot is taken for output of the
next one.
-/

namespace BoardBench

/-- A line that the host drives. -/
structure OutputLine (δ : Type) where
  name : String
  /-- Makes the line's function active: power on, reset held, download mode selected. -/
  drive : Bool → Act δ Unit

/-- How long the board is left alone around the edges. -/
structure RebootTimings where
  /-- Time without power. -/
  powerOff : Span := .ofMillis 500
  /-- Time after the power is back or the reset is released. -/
  powerOn : Span := .ofMillis 500
  /-- Length of the reset pulse. -/
  resetPulse : Span := .ofMillis 50
  deriving DecidableEq, Repr

/-- The lines of a board. -/
structure BoardLines (δ : Type) where
  power : OutputLine δ
  reset : Option (OutputLine δ) := none
  /-- Selects the download mode. -/
  boot : Option (OutputLine δ) := none
  timings : RebootTimings := {}

namespace OutputLine

variable {δ : Type}

/-- Drives the line; that it cannot be driven is an error of the reboot. -/
def set (l : OutputLine δ) (active : Bool) : Act (Session δ) Unit :=
  (Session.onDevice (l.drive active)).mapError fun e =>
    .reboot ("driving " ++ l.name ++ " failed: " ++ e.message)

section Pins

variable [Files δ] [Bench δ]

/-- How long a pin that was asked for has to show up. -/
def exportTimeout : Span := .ofSeconds 1

/-- How often it is looked for. -/
def exportStep : Span := .ofMillis 10

/-- Makes a numbered pin below `root` an output. -/
def openPin (root : String) (number : Nat) (activeLow : Bool) : Act δ (OutputLine δ) := do
  let name := "gpio" ++ toString number
  let dir := Text.Path.join root name
  unless Files.isThere dir (← Act.state) do
    Files.put (Text.Path.join root "export") (toString number)
    let found ← (fun d =>
      let (found, d') := Files.waitFor (Text.Path.join dir "direction") exportStep exportTimeout d
      (.ok found, d') : Act δ Bool)
    unless found do
      Act.fail (.config (name ++ " did not show up after export"))
  Files.put (Text.Path.join dir "direction") "out"
  return {
    name
    drive := fun active =>
      Files.put (Text.Path.join dir "value") (if active != activeLow then "1" else "0") }

end Pins

/-- A control signal of an adapter that has been opened under a path. -/
def modemSignal [Bench δ] [SerialLines δ] (line : Nat) (path : String) (signal : ModemSignal)
    (activeLow : Bool) : OutputLine δ where
  name := path ++ ":" ++ signal.label
  drive active := SerialLines.setSignal line signal (active != activeLow)

end OutputLine

namespace Rebooter

variable {δ : Type} [Bench δ] [Transport δ]

/-- Takes the power away and gives it back. -/
def powerCycle (b : BoardLines δ) : Act (Session δ) Unit := do
  b.power.set false
  Session.sleep b.timings.powerOff
  Session.clearBuffer
  b.power.set true
  Session.sleep b.timings.powerOn

/-- Pulses the reset line; a board without one has its power cycled. -/
def pulseReset (b : BoardLines δ) : Act (Session δ) Unit :=
  match b.reset with
  | none => powerCycle b
  | some reset => do
    reset.set true
    Session.sleep b.timings.resetPulse
    Session.clearBuffer
    reset.set false
    Session.sleep b.timings.powerOn

/-- Reboots a board by its lines. -/
def byLines (b : BoardLines δ) : Rebooter δ where
  name := "gpio"
  reboot options := do
    Session.note .info ("Rebooting " ++ Transport.name (← Act.state).device ++ " (" ++
      (if options.hard then "power cycle" else "reset") ++ ", " ++
      (if options.flash then "flash" else "normal") ++ " boot)")
    match b.boot with
    | some boot => boot.set options.flash
    | none =>
      if options.flash then
        Act.fail (.reboot "no boot select line, cannot boot into flash mode")
    if options.hard then powerCycle b else pulseReset b

end Rebooter
end BoardBench
