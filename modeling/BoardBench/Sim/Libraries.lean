import BoardBench.CommandLine.Completion.Bash
import BoardBench.CommandLine.Completion.Elvish
import BoardBench.CommandLine.Completion.Fish
import BoardBench.CommandLine.Completion.PowerShell
import BoardBench.CommandLine.Completion.Zsh
import BoardBench.CommandLine.Help
import BoardBench.Libraries
import BoardBench.Regex.Library
import BoardBench.Toml.Reader

/-!
# The libraries of simulated benches

Simulated benches run with the readers of this project.
-/

namespace BoardBench

namespace CommandLine

/-- What a command line asks for; help and the version are written out. -/
def ProgramSpec.asked (p : ProgramSpec) (environment : String → Option String) (words : List String) :
    Except String Asked :=
  match p.read environment words with
  | .error misuse => .error misuse.text
  | .ok (.help page) => .ok (.text (page.help p.shared environment))
  | .ok (.version page) => .ok (.text ("-".intercalate page.path ++ " " ++ p.version ++ "\n"))
  | .ok (.call command settings) => .ok (.call command settings)

/-- The completion script of a program for a shell. -/
def ProgramSpec.script (p : ProgramSpec) : CompletedShell → String
  | .bash => Completion.Bash.script p
  | .elvish => Completion.Elvish.script p
  | .fish => Completion.Fish.script p
  | .powerShell => Completion.PowerShell.script p
  | .zsh => Completion.Zsh.script p

end CommandLine

/-- The libraries. -/
def Sim.libraries : Libraries where
  regexes := Regex.library
  readToml := Toml.read?
  commandLines := ⟨CommandLine.ProgramSpec.asked, fun shell p => p.script shell⟩

end BoardBench
