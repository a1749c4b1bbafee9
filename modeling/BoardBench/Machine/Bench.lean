import BoardBench.Act
import BoardBench.Libraries

/-!
# The bench

What every part of the bench shares: the clock by which waiting is measured, the log that the people who
run the bench can read, and the libraries that it runs with.
-/

namespace BoardBench

/-- How grave a line of the log is. -/
inductive Level where
  | error | warn | info
  deriving DecidableEq, Repr

/-- A bench: a clock that can be waited on, a log, and libraries. -/
class Bench (δ : Type) where
  /-- Nanoseconds since the clock was started. -/
  now : δ → Nat
  /-- Lets time pass. -/
  sleep : Span → δ → δ
  /-- Writes a line into the log. -/
  note : Level → String → δ → δ
  libraries (δ) : Libraries
  now_sleep : ∀ (t : Span) (d : δ), now (sleep t d) = now d + t.nanos

end BoardBench
