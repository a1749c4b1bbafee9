import BoardBench.Config.Resolve
import BoardBench.Machine.Bench
import BoardBench.Machine.Files
import BoardBench.Text.Utf8

/-!
# Loading configurations

A configuration is read from the file that the command line names. If it names none, the user's own is
read and the one in the current directory is put on top of it; either may be missing.
-/

namespace BoardBench.Config

/-- The configuration in the current directory. -/
def localFile : String := "plotest.toml"

variable {δ : Type} [Bench δ] [Files δ]

/-- Reads the configuration in a file. -/
def readFile (path : String) (d : δ) : Except CommandFailure Config :=
  match Files.readFile path d with
  | .error f => .error (.config ("failed to read " ++ path ++ ": " ++ f.text))
  | .ok bytes =>
    match Text.decode? bytes with
    | none => .error (.config ("failed to read " ++ path ++ ": stream did not contain valid UTF-8"))
    | some text =>
      match ((Bench.libraries δ).readToml text).bind ofJson? with
      | some c => .ok c
      | none => .error (.config ("failed to parse " ++ path ++ ": not a configuration"))

/-- The configuration with the one in a file on top of it, if there is such a file. -/
def mergeFile (path : String) (d : δ) (c : Config) : Except CommandFailure Config :=
  if Files.isThere path d then (readFile path d).map c.merge else .ok c

/-- Loads the configuration; `own` is where the user's own would be. -/
def load (explicit own : Option String) (d : δ) : Except CommandFailure Config :=
  match explicit with
  | some path =>
    if Files.isThere path d then readFile path d
    else .error (.config ("config file " ++ path ++ " not found"))
  | none => do
    let c ← match own with
      | some path => mergeFile path d {}
      | none => .ok {}
    mergeFile localFile d c

/-- The files besides configurations that the configuration names. -/
def namedFiles (c : Config) : List String :=
  (c.targets.flatMap fun (_, t) =>
    (t.flashImage.map (·.spec.file)).toList ++ (t.fileServer.map (·.port)).toList ++
      (t.emulator.map (·.program)).toList) ++
    c.tests.flatMap fun t => t.apps.map (·.file)

end BoardBench.Config
