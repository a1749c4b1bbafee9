/-!
# Paths

Names of files: steps between slashes. Steps that are empty or a single dot do not count.
-/

namespace BoardBench.Text.Path

/-- The steps of a path that count. -/
def steps (path : String) : List String :=
  (path.splitOn "/").filter fun s => s != "" && s != "."

def isAbsolute (path : String) : Bool := path.startsWith "/"

/-- The last step, if it is a name. -/
def fileName? (path : String) : Option String :=
  (steps path).getLast?.filter (· != "..")

/-- The directory that an absolute path without links stands in. -/
def parent (path : String) : String := "/" ++ "/".intercalate (steps path).dropLast

/-- `path`, taken from `base` unless it is absolute. -/
def join (base path : String) : String :=
  if isAbsolute path || base == "" then path
  else if base.endsWith "/" then base ++ path
  else base ++ "/" ++ path

end BoardBench.Text.Path
