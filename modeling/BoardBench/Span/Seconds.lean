import BoardBench.Json.Basic
import BoardBench.Span

/-!
# Spans in seconds

Other programs write a span as a number of seconds with binary fractions. Such a number is taken
exactly and rounded to the nearest nanosecond, a half to the even one; what is negative or longer than
any span is refused.
-/

namespace BoardBench

/-- `num / den` rounded to the nearest number, a half to the even one. -/
def roundHalfEven (num den : Nat) : Nat :=
  let whole := num / den
  let rest := num % den
  if den < 2 * rest || (den = 2 * rest && whole % 2 = 1) then whole + 1 else whole

/-- A natural number scaled by a power of two: `m * 2 ^ e`. -/
structure Scaled where
  m : Nat
  e : Int
  deriving DecidableEq, Repr

/-- The number that a float stands for, if it is finite and not below zero. -/
def Scaled.ofFloat? (x : Float) : Option Scaled :=
  let bits := x.toBits.toNat
  let negative := bits / Nat.pow 2 63 = 1
  let power : Nat := bits / Nat.pow 2 52 % Nat.pow 2 11
  let rest : Nat := bits % Nat.pow 2 52
  if power = Nat.pow 2 11 - 1 then none
  else if negative && (power ≠ 0 || rest ≠ 0) then none
  else if power = 0 then some ⟨rest, -1074⟩
  else some ⟨Nat.pow 2 52 + rest, (power : Int) - 1075⟩

namespace Span

/-- The nearest span to a number of seconds. -/
def ofScaled? (d : Scaled) : Option Span :=
  let nanos := match d.e with
    | .ofNat k => d.m * Nat.pow 2 k * 1000000000
    | .negSucc k => roundHalfEven (d.m * 1000000000) (Nat.pow 2 (k + 1))
  if nanos < secondsBound * 1000000000 then some ⟨nanos⟩ else none

/-- The nearest span to a number of seconds. -/
def ofSeconds? (seconds : Float) : Option Span := (Scaled.ofFloat? seconds).bind ofScaled?

/-- The span as a number of seconds. -/
def toSeconds (s : Span) : Float := Float.ofNat s.seconds + Float.ofNat s.subsecond / 1000000000.0

end Span

namespace Json

/-- A number as a float; one that is far too large or too small is not worked out. -/
def float? : Json → Option Float
  | int n => some (Float.ofInt n)
  | decimal negative mantissa exponent =>
    let x :=
      if mantissa = 0 || magnitude mantissa exponent < -400 then 0.0
      else if 400 < magnitude mantissa exponent then 1.0 / 0.0
      else
        match exponent with
        | .ofNat k => Float.ofScientific mantissa false k
        | .negSucc k => Float.ofScientific mantissa true (k + 1)
    some (if negative then -x else x)
  | _ => none

/-- A span in seconds. -/
def seconds? (j : Json) : Option Span := (float? j).bind Span.ofSeconds?

end Json
end BoardBench
