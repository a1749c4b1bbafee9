import BoardBench.Reboot.Debugger
import BoardBench.Reboot.Interactive
import BoardBench.Reboot.Lines
import BoardBench.Target.Config

/-!
# Hosts

The machine that the bench runs on, with what is wired to it. It decides how boards are rebooted: by
the host's own pins, by a debug probe, by the control signals of an adapter, or by a person. Emulators
need a host of their own kind.
-/

namespace BoardBench

/-- What kind of machine. -/
inductive HostKind where
  /-- A small computer with pins of its own. -/
  | rpi
  /-- A workstation. -/
  | pc
  /-- A machine for emulators only. -/
  | emulator
  deriving DecidableEq, Repr

namespace HostKind

def name : HostKind → String
  | rpi => "rpi"
  | pc => "pc"
  | emulator => "emulator"

/-- The kind of a name, in any case. -/
def ofName? (s : String) : Except Error HostKind :=
  let lower := String.ofList (s.toList.map Char.toLower)
  match lower with
  | "rpi" => .ok rpi
  | "pc" => .ok pc
  | "emulator" => .ok emulator
  | other => .error (.config ("unknown host `" ++ other ++ "`"))

end HostKind

/-- Numbers of the pins that are wired to a board. -/
structure PinNumbers where
  power : Option Nat := none
  reset : Option Nat := none
  /-- Selects the download mode. -/
  boot : Option Nat := none
  /-- The pins are driven inverted. -/
  activeLow : Bool := false
  deriving DecidableEq, Repr

/-- A host with what is wired to it. -/
structure HostConfig where
  kind : HostKind
  pins : PinNumbers := {}
  /-- Adapter whose control signals are wired to power and reset. -/
  modem : Option String := none
  /-- Arguments for the driver of a debug probe. -/
  debugger : Option (List String) := none
  timings : RebootTimings := {}
  /-- How long a person has to reboot a board. -/
  interactiveTimeout : Span := Rebooter.confirmTimeout
  /-- Whether a person may be asked to. -/
  interactive : Bool := true
  deriving DecidableEq, Repr

namespace HostConfig

/-- Where the pins of the host are found. -/
def pinRoot : String := "/sys/class/gpio"

/-- Speed at which an adapter is opened whose signals alone are used. -/
def modemSpeed : Nat := 115200

/-- Whether the host can drive the target at all. -/
def checkPairing (host : HostConfig) (target : TargetConfig) : Except Error Unit :=
  match host.kind, target.isEmulated with
  | .emulator, false =>
    .error (.config ("target " ++ target.name ++
      " is a physical board and cannot run on the emulator host"))
  | .rpi, true | .pc, true =>
    .error (.config ("target " ++ target.name ++ " is emulated and needs the emulator host, not " ++
      host.kind.name))
  | _, _ => .ok ()

variable {δ : Type} [Bench δ] [Transport δ] [Processes δ] [Files δ] [SerialLines δ] [Operator δ]

/-- Reboots by the host's own pins. -/
def byPins (pins : PinNumbers) (timings : RebootTimings) : Act δ (Rebooter δ) := do
  let openPin (number : Nat) : Act δ (OutputLine δ) := OutputLine.openPin pinRoot number pins.activeLow
  let openPin? : Option Nat → Act δ (Option (OutputLine δ))
    | none => return none
    | some number => some <$> openPin number
  match pins.power with
  | none => Act.fail (.config "rpi host without a power GPIO")
  | some number =>
    let power ← openPin number
    let reset ← openPin? pins.reset
    let boot ← openPin? pins.boot
    return .byLines { power, reset, boot, timings }

/-- Reboots by the control signals of an adapter. -/
def bySignals (path : String) (timings : RebootTimings) : Act δ (Rebooter δ) := do
  let line ← (SerialLines.openLine path modemSpeed .zero : Act δ Nat)
  return .byLines {
    power := OutputLine.modemSignal line path .dtr false
    reset := some (OutputLine.modemSignal line path .rts false)
    timings }

/-- The way to reboot a target on the host. -/
def rebooterFor (host : HostConfig) (target : TargetConfig) : Act δ (Rebooter δ) := do
  Act.ofExcept (host.checkPairing target)
  match host.kind with
  | .emulator => return .emulator
  | .rpi => byPins host.pins host.timings
  | .pc =>
    match host.debugger, host.modem with
    | some args, _ =>
      return .debugger (.debugProbe (args ++ Rebooter.resetCommands)) Rebooter.probeExitTimeout
    | none, some path => bySignals path host.timings
    | none, none =>
      if host.interactive then return .interactive host.interactiveTimeout
      else
        Act.fail (.config ("target " ++ target.name ++ " needs a manual reset on this pc host, " ++
          "which non-interactive mode forbids; configure a debugger or modem adapter"))

end HostConfig
end BoardBench
