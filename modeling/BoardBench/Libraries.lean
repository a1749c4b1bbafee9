import BoardBench.CommandLine.Library
import BoardBench.Json.Basic
import BoardBench.Regex

/-!
# Libraries

What the bench leaves to libraries that are not a part of it. Their answers are taken as they come; where
something rests on what a library promises, the promise is assumed by name.
-/

namespace BoardBench

/-- The libraries that a bench runs with. -/
structure Libraries where
  regexes : Regexes
  /-- The value of a text in the form of configurations; none if it is in no such form. -/
  readToml : String → Option Json
  commandLines : CommandLine.Library

end BoardBench
