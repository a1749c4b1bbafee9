import BoardBench.Runner
import BoardBench.Text.Styled

/-!
# Reports for people

What is shown of a run: a line when a test begins, a line with what became of it, and a line with the
counts at the end. On a terminal that can show colours the lines have more in them.
-/

namespace BoardBench

open Text (styled)

/-- How a run is shown. -/
structure ScreenStyle where
  /-- Only what did not pass, and the counts. -/
  quiet : Bool
  /-- The screen is a terminal that can show colours. -/
  fancy : Bool
  /-- Texts are coloured. -/
  colours : Bool
  deriving DecidableEq, Repr

/-- A test in one line, without colours. -/
def Verdict.line (name : String) (v : Verdict) : String :=
  name ++ ": " ++ v.status.text ++ ((v.stage.map fun s => " [" ++ s.text ++ "]").getD "") ++
    if v.message.isEmpty then "" else " " ++ v.message

namespace ScreenStyle

/-- The status of a test in its colour. -/
def statusText (colours : Bool) (status : Status) : String :=
  match status with
  | .ok => styled colours (some .green) [.bold] "OK"
  | .fail => styled colours (some .red) [.bold] "FAIL"
  | .skip => styled colours (some .yellow) [] "SKIP"

/-- The lines of a test for a terminal. -/
def fancyLines (colours : Bool) (name : String) (v : Verdict) : String :=
  let stage := (v.stage.map fun s => " [" ++ s.text ++ "]").getD ""
  let message := if v.message.isEmpty then "" else " " ++ styled colours none [.dim] v.message
  let part (p : SubVerdict) : String :=
    if p.status = .fail then
      "    " ++ styled colours (some .red) [] "✗" ++ " " ++ p.name ++ ": " ++ p.message ++ "\n"
    else ""
  "  " ++ name ++ ": " ++ statusText colours v.status ++ stage ++ message ++ "\n" ++
    String.join (v.parts.map part)

/-- What is shown for a report. -/
def text (style : ScreenStyle) : Report → String
  | .started name =>
    if style.quiet then "" else styled style.colours (some .cyan) [] "▶" ++ " " ++ name ++ "\n"
  | .finished name v =>
    if v.status = .ok && style.quiet then ""
    else if style.fancy then fancyLines style.colours name v
    else "  " ++ v.line name ++ "\n"
  | .summary s =>
    if s.total = 0 then ""
    else
      let mark := if s.isSuccess then styled style.colours (some .green) [.bold] "✓"
        else styled style.colours (some .red) [.bold] "✗"
      "\n" ++ mark ++ " " ++ s.text ++ "\n"

end ScreenStyle
end BoardBench
