import BoardBench.Bytes
import BoardBench.Machine.Bench

/-!
# Serial lines

The serial adapters of the machine. A line that was opened is known by a number until it is closed.
-/

namespace BoardBench

/-- A control signal of an adapter. -/
inductive ModemSignal where
  | dtr | rts
  deriving DecidableEq, Repr

/-- The signal as it stands in the name of a line. -/
def ModemSignal.label : ModemSignal → String
  | dtr => "Dtr"
  | rts => "Rts"

/-- A machine with serial adapters. -/
class SerialLines (δ : Type) [Bench δ] where
  /-- Opens the adapter of a path at a speed, with a timeout for its reads. -/
  openLine : String → Nat → Span → δ → Except Error Nat × δ
  closeLine : Nat → δ → δ
  /-- The timeout that reads of the line have. -/
  lineTimeout : Nat → δ → Span
  setLineTimeout : Nat → Span → Act δ Unit
  readLine : Nat → Nat → δ → Except Fault Bytes × δ
  writeLine : Nat → Bytes → δ → Except Fault Nat × δ
  flushLine : Nat → δ → Except Fault Unit × δ
  clearLine : Nat → Act δ Unit
  setSignal : Nat → ModemSignal → Bool → Act δ Unit

end BoardBench
