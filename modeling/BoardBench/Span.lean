import BoardBench.Text.Numeral

/-!
# Spans of time

Time is counted in nanoseconds. A span is at most `Span.max`, which is so long that a wait for it
never ends. A span is shown in the largest unit that makes its integer part positive.
-/

namespace BoardBench

/-- A span of time. -/
structure Span where
  /-- Its length in nanoseconds. -/
  nanos : Nat
  deriving DecidableEq, Repr, Inhabited

namespace Span

/-- Bound on the whole seconds of a span. -/
def secondsBound : Nat := 0x10000000000000000

/-- The longest span. -/
def max : Span := ⟨secondsBound * 1000000000 - 1⟩

def zero : Span := ⟨0⟩
def ofSeconds (n : Nat) : Span := ⟨n * 1000000000⟩
def ofMillis (n : Nat) : Span := ⟨n * 1000000⟩

/-- Whole seconds. -/
def seconds (s : Span) : Nat := s.nanos / 1000000000

/-- What is left beside the whole seconds, in nanoseconds. -/
def subsecond (s : Span) : Nat := s.nanos % 1000000000

/-- `n` spans on end, if that is still a span. -/
def times? (s : Span) (n : Nat) : Option Span :=
  if s.nanos * n < secondsBound * 1000000000 then some ⟨s.nanos * n⟩ else none

/-- `n` thousandths, millionths or thousand-millionths of a unit as a decimal without trailing
zeros: `digits` is the number of decimal places. -/
def decimalText (whole fraction digits : Nat) : String :=
  let places := (Text.padZeros digits (toString fraction)).toList
  let kept := (places.reverse.dropWhile (· == '0')).reverse
  if kept.isEmpty then toString whole else toString whole ++ "." ++ String.ofList kept

/-- The span in its largest unit that makes the integer part positive. -/
def text (s : Span) : String :=
  if 0 < s.seconds then decimalText s.seconds s.subsecond 9 ++ "s"
  else if 1000000 ≤ s.nanos then decimalText (s.nanos / 1000000) (s.nanos % 1000000) 6 ++ "ms"
  else if 1000 ≤ s.nanos then decimalText (s.nanos / 1000) (s.nanos % 1000) 3 ++ "µs"
  else toString s.nanos ++ "ns"

end Span
end BoardBench
