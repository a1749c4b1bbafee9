import BoardBench.Console.Process
import BoardBench.Console.Serial
import BoardBench.Helper.Spec
import BoardBench.Image

/-!
# Descriptions of targets

Everything that is known about a board or an emulator: how its console is reached, what its shell
looks like, and what can be programmed into it or loaded onto it.
-/

namespace BoardBench

/-- How a console is reached. -/
inductive ConsoleKind where
  /-- A board on a serial line. -/
  | serial (config : SerialConfig)
  /-- An emulator, whose console is its process. -/
  | process (config : ProcessConfig)
  deriving DecidableEq, Repr

/-- The server that hands files to the bootloader. -/
structure FileServer where
  /-- Device that it serves over. -/
  port : String
  baud : Nat
  /-- Directory of the files. -/
  dir : String
  deriving DecidableEq, Repr

/-- The helper that a file server is. -/
def FileServer.helper (s : FileServer) : HelperSpec := HelperSpec.fileServer s.port s.baud s.dir

/-- A board or an emulator. -/
structure TargetConfig where
  name : String
  console : ConsoleKind
  shellPrompt : String := "(psh)% "
  /-- Longest wait for the shell after a boot. -/
  bootupTimeout : Span := .ofSeconds 90
  /-- Shell command that silences the kernel. -/
  kernelLogOff : Option String := none
  /-- Shell command that lets the kernel speak again. -/
  kernelLogOn : Option String := none
  ramWindow : Option RamWindow := none
  flashImage : Option FlashImage := none
  fileServer : Option FileServer := none
  deriving DecidableEq, Repr

def TargetConfig.isEmulated (t : TargetConfig) : Bool :=
  match t.console with
  | .process _ => true
  | .serial _ => false

end BoardBench
