import BoardBench.Harness.Verdict
import BoardBench.Json.Record

/-!
# Verdicts for other programs

How statuses and failure stages are read; they are written as in reports.
-/

namespace BoardBench

/-- A status under its name. -/
def Status.ofJson? : Json → Option Status :=
  Json.choice? ([ok, fail, skip].map fun s => (s.text, s))

/-- A failure stage under its name. -/
def FailureStage.ofJson? : Json → Option FailureStage :=
  Json.choice? ([flash, run].map fun s => (s.text, s))

end BoardBench
