/-!
# Verdicts

What became of a test: it passed, failed or was skipped; where it failed and why; and what became of
its parts.
-/

namespace BoardBench

/-- What became of a test or a part of one. -/
inductive Status where
  | ok | fail | skip
  deriving DecidableEq, Repr

def Status.text : Status → String
  | ok => "OK"
  | fail => "FAIL"
  | skip => "SKIP"

/-- Where a failed test broke. -/
inductive FailureStage where
  /-- While the board was being prepared. -/
  | flash
  /-- In the test itself. -/
  | run
  deriving DecidableEq, Repr

def FailureStage.text : FailureStage → String
  | flash => "FLASH"
  | run => "RUN"

/-- What became of a part of a test. -/
structure SubVerdict where
  name : String
  status : Status
  message : String
  deriving DecidableEq, Repr

/-- What became of a test. -/
structure Verdict where
  status : Status := .ok
  /-- Why it failed or was skipped. -/
  message : String := ""
  /-- Where it failed; none if it never began. -/
  stage : Option FailureStage := none
  /-- Its parts, in order. -/
  parts : List SubVerdict := []
  deriving DecidableEq, Repr

namespace Verdict

/-- A test that was not run. -/
def skipped (message : String) : Verdict := { status := .skip, message }

/-- A test that failed. -/
def failed (stage : Option FailureStage) (message : String) : Verdict :=
  { status := .fail, message, stage }

/-- The test failed after all. -/
def fail (stage : FailureStage) (message : String) (v : Verdict) : Verdict :=
  { v with status := .fail, stage := some stage, message }

/-- Adds a part. -/
def addPart (name : String) (status : Status) (message : String) (v : Verdict) : Verdict :=
  { v with parts := v.parts ++ [⟨name, status, message⟩] }

/-- A test that has passed so far fails if one of its parts did. -/
def foldParts (v : Verdict) : Verdict :=
  if v.status ≠ .ok then v
  else
    let failed := (v.parts.filter (·.status = .fail)).map (·.name)
    if failed.isEmpty then v else v.fail .run ("failed: " ++ ", ".intercalate failed)

def isFail (v : Verdict) : Bool := v.status = .fail

end Verdict
end BoardBench
