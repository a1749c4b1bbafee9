import BoardBench.Machine.Bench

/-!
# The operator

The person at the bench: reads what is shown on the screen and types lines.
-/

namespace BoardBench

/-- What comes of waiting for a line. -/
inductive Typed where
  | line (text : String)
  /-- There will be no more. -/
  | closed
  /-- Nothing came in time. -/
  | nothing
  deriving DecidableEq, Repr

/-- A machine with a person in front of it. -/
class Operator (δ : Type) [Bench δ] where
  /-- Drops the lines that have been typed. -/
  discardLines : δ → δ
  /-- The next line, waiting for it at most so long. -/
  awaitLine : Span → δ → Typed × δ
  /-- How often it was asked that the run be stopped. -/
  stopRequests : δ → Nat
  /-- Shows a text. -/
  display : String → δ → Except Fault Unit × δ
  /-- Shows a message of the program's own on a screen that can be written: the program does not outlive
  one that cannot. -/
  print : String → δ → δ
  /-- Makes sure that what was shown can be seen. -/
  refresh : δ → Except Fault Unit × δ

end BoardBench
