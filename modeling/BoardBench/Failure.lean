import BoardBench.Error

/-!
# Failures of the program

Why the program ended early, with what it was doing; how that is shown, and which exit status it
ends with.
-/

namespace BoardBench

/-- A failure that the command line finds itself. -/
inductive CommandFailure where
  /-- It was called in a wrong way. -/
  | usage (message : String)
  /-- The configuration is missing or wrong. -/
  | config (message : String)
  /-- The user stopped it. -/
  | cancelled (message : String)
  /-- The run was completed with tests that failed. -/
  | testsFailed (failed total : Nat)
  deriving DecidableEq, Repr

namespace CommandFailure

def message : CommandFailure → String
  | usage m | config m | cancelled m => m
  | testsFailed failed total => toString failed ++ " of " ++ toString total ++ " tests failed"

def exitCode : CommandFailure → Nat
  | usage _ => 2
  | config _ => 3
  | cancelled _ => 130
  | testsFailed .. => 1

end CommandFailure

/-- What a failure goes back to. -/
inductive Cause where
  | command (failure : CommandFailure)
  | bench (error : Error)
  | other (message : String)
  deriving DecidableEq, Repr

/-- A failure, with what was being done, the innermost first. -/
structure Failure where
  cause : Cause
  contexts : List String := []
  deriving DecidableEq, Repr

namespace Failure

def usage (message : String) : Failure := ⟨.command (.usage message), []⟩
def config (message : String) : Failure := ⟨.command (.config message), []⟩
def ofError (e : Error) : Failure := ⟨.bench e, []⟩

/-- The failure, while something was being done. -/
def within (context : String) (f : Failure) : Failure := { f with contexts := f.contexts ++ [context] }

/-- The messages of the cause, the outermost first. -/
def causeTexts : Cause → List String
  | .command f => [f.message]
  | .bench e => e.message :: e.source?.toList
  | .other m => [m]

/-- The failure in one line, from what was being done to what went wrong. -/
def text (f : Failure) : String := ": ".intercalate (f.contexts.reverse ++ causeTexts f.cause)

/-- The exit status of the program. -/
def exitCode (f : Failure) : Nat :=
  match f.cause with
  | .command c => c.exitCode
  | .bench (.config _) | .bench (.composition _) => 3
  | .bench .interrupted => 130
  | .bench _ | .other _ => 1

end Failure
end BoardBench
