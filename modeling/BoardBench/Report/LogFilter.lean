import BoardBench.Machine.Bench
import BoardBench.Pattern
import BoardBench.Text.Trim

/-!
# What of the log is shown

A filter is a list of directives between commas: a level for everything, the name of a source, or both
with an equals sign between them. Of the directives whose name begins the name of a source the one with
the longest name counts, and a line is shown if it is at least as grave as the level that it gives.
After a slash there may be a pattern that every line must fit.
-/

namespace BoardBench

/-- How grave a level is: the smaller, the graver. -/
def Level.rank : Level → Nat
  | .error => 1
  | .warn => 2
  | .info => 3

/-- A line of the log as it is shown; further lines of its text are moved in. -/
def Level.line (level : Level) (text : String) : String :=
  let name := match level with
    | .error => "ERROR"
    | .warn => "WARN "
    | .info => "INFO "
  "[" ++ name ++ "] " ++ "\n    ".intercalate (text.splitOn "\n") ++ "\n"

/-- What of the log is shown. -/
structure LogFilter where
  /-- Names of sources, each with the largest rank that is shown of it. -/
  directives : List (String × Nat)
  pattern : Option Pattern := none

namespace LogFilter

/-- The ranks of the levels that a filter can name. -/
def ranks : List (String × Nat) :=
  [("off", 0), ("error", 1), ("warn", 2), ("info", 3), ("debug", 4), ("trace", 5)]

def rank? (name : String) : Option Nat := ranks.lookup (String.ofList (name.toList.map Char.toLower))

def everything : Nat := 5

/-- Shows what is at least as grave as a rank. -/
def atLeast (rank : Nat) : LogFilter := { directives := [("", rank)] }

/-- Reads a directive; the directive for everything has no name. -/
def directive? (text : String) : Except String (String × Nat) :=
  match text.splitOn "=" with
  | [name] =>
    match rank? (Text.trim name) with
    | some rank => .ok ("", rank)
    | none => .ok (name, everything)
  | [name, level] =>
    if (Text.trim level).isEmpty then .ok (name, everything)
    else
      match rank? (Text.trim level) with
      | some rank => .ok (name, rank)
      | none => .error (Text.trim level)
  | _ => .error text

/-- Puts a directive in place of the one of its name. -/
def insert (f : LogFilter) (directive : String × Nat) : LogFilter :=
  { f with directives := directive :: f.directives.filter (·.1 != directive.1) }

def warning (what : String) : String := "warning: " ++ what ++ ", ignoring it\n"

/-- Reads a filter, with warnings about what in it is wrong. -/
def ofText (regexes : Regexes) (text : String) : LogFilter × String :=
  let parts := text.splitOn "/"
  if 2 < parts.length then
    (atLeast 1, warning ("invalid logging spec '" ++ text ++ "' (too many '/'s)"))
  else
    let texts := (((parts.headD "").splitOn ",").map Text.trim).filter (!·.isEmpty)
    let (filter, warnings) := texts.foldl (fun ((f : LogFilter), warnings) text =>
      match directive? text with
      | .ok d => (f.insert d, warnings)
      | .error wrong => (f, warnings ++ warning ("invalid logging spec '" ++ wrong ++ "'")))
      ({ directives := [] }, "")
    let filter := if filter.directives.isEmpty then atLeast 1 else filter
    match parts[1]?.map (Pattern.ofRegex? regexes) with
    | none => (filter, warnings)
    | some (.ok p) => ({ filter with pattern := some p }, warnings)
    | some (.error e) => (filter, warnings ++ warning ("invalid regex filter - " ++ e.message))

/-- Whether a line of a source is shown. -/
def admits (f : LogFilter) (source : String) (level : Level) (text : String) : Bool :=
  let applying := f.directives.filter fun (name, _) => source.startsWith name
  match applying.mergeSort fun a b => decide (b.1.length ≤ a.1.length) with
  | [] => false
  | (_, rank) :: _ =>
    decide (level.rank ≤ rank) &&
      (f.pattern.map fun p => (Pattern.earliest? [p] (Bytes.ofText text)).isSome).getD true

end LogFilter
end BoardBench
