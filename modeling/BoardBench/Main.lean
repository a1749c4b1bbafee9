import BoardBench.CommandLine.Commands
import BoardBench.Sim.Transcript

/-!
# The program

Calls the program with the words of the command line, on a simulated bench: the configurations and the
files that they name are those of the machine, emulators and helpers are played, and no adapter is
plugged in. What was shown, printed and logged is handed on to the machine.
-/

namespace BoardBench

open CommandLine Sim

/-- The variables that the program looks at. -/
def knownVariables : List String :=
  ["XDG_CONFIG_HOME", "HOME", "RUST_LOG"] ++ program.shared.filterMap (·.standIn?)

/-- The environment of the process. -/
def readEnvironment : IO Environment := do
  let vars ← knownVariables.filterMapM fun name => do
    return (← IO.getEnv name).map (name, ·)
  return ⟨vars⟩

/-- Takes files of the machine onto the bench, as far as they can be read. -/
def takeFiles (paths : List String) (w : World) : IO World :=
  paths.foldlM (fun w (path : String) => do
    match ← (IO.FS.readBinFile path).toBaseIO with
    | .ok bytes => return { w with files := w.files.put path (.file bytes.toList true) }
    | .error _ => return w) w

/-- What a call chooses, if it calls a command. -/
def choicesOf (e : Environment) (words : List String) : Choices :=
  match (Bench.libraries World).commandLines.read program e.get? words with
  | .ok (.call _ settings) => settings.choices
  | _ => {}

/-- The bench that a call finds. -/
def prepare (e : Environment) (choices : Choices) : IO World := do
  let empty : World := { person := { ended := true }, interruptText := stopNotice }
  let w ← takeFiles (choices.configFile.toList ++ e.ownConfig?.toList ++ [Config.localFile]) empty
  match Config.load choices.configFile e.ownConfig? w with
  | .ok config => takeFiles config.namedFiles w
  | .error _ => return w

/-- Calls the program and gives its exit status. -/
def callProgram (words : List String) : IO UInt32 := do
  let e ← readEnvironment
  let choices := choicesOf e words
  let (outcome, w) := call e words (← prepare e choices)
  IO.eprint (w.transcript outcome.log program.name)
  IO.print outcome.printed
  match choices.sessionLog with
  | some path =>
    match w.files.read path with
    | .ok bytes => IO.FS.writeBinFile path ⟨bytes.toArray⟩
    | .error _ => pure ()
  | none => pure ()
  return outcome.status.toUInt32

end BoardBench

def main (words : List String) : IO UInt32 := BoardBench.callProgram words
