import BoardBench.CommandLine.Program
import BoardBench.Report.LogFilter
import BoardBench.Text.Path

/-!
# The environment of a call

The variables that are set when the program is called, and what follows from them: where the user's own
configuration would be, and what of the log is shown.
-/

namespace BoardBench.CommandLine

/-- The variables that are set. -/
structure Environment where
  vars : List (String × String)
  deriving DecidableEq, Repr

namespace Environment

def get? (e : Environment) (name : String) : Option String := e.vars.lookup name

/-- Where the user keeps configurations. -/
def configHome? (e : Environment) : Option String :=
  match (e.get? "XDG_CONFIG_HOME").filter Text.Path.isAbsolute with
  | some dir => some dir
  | none => ((e.get? "HOME").filter (!·.isEmpty)).map (Text.Path.join · ".config")

/-- Where the user's own configuration would be. -/
def ownConfig? (e : Environment) : Option String :=
  e.configHome?.map fun dir => Text.Path.join (Text.Path.join dir program.name) "config.toml"

/-- The rank of what is shown of the log if no filter is set. -/
def usualRank (choices : Choices) : Nat :=
  if choices.quiet then Level.warn.rank else Level.info.rank + min choices.verbosity 2

/-- What is shown of the log, with warnings about the filter that is set. -/
def logFilter (regexes : Regexes) (e : Environment) (choices : Choices) : LogFilter × String :=
  match e.get? "RUST_LOG" with
  | some text => LogFilter.ofText regexes text
  | none => (LogFilter.atLeast (usualRank choices), "")

end Environment
end BoardBench.CommandLine
