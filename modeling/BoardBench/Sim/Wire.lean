import BoardBench.Bytes
import BoardBench.Machine.SerialLines

/-!
# Simulated serial adapters

An adapter with something at the far end of its wire that prints, keeps what it is sent and answers
by rules that fire in order. Only one handle at a time can be open.
-/

namespace BoardBench.Sim

/-- A serial adapter and what is at its far end. -/
structure Wire where
  /-- Printed by the far end and not yet read. -/
  toBench : Bytes := []
  /-- Sent to the far end and not looked at. -/
  fromBench : Bytes := []
  /-- What the far end waits for and then prints. -/
  rules : List (Bytes × Bytes) := []
  /-- Sent to the far end and has fired no rule. -/
  unmatched : Bytes := []
  /-- The timeout of the handle that is open, if there is one. -/
  openHandle : Option Span := none
  deriving Repr

namespace Wire

/-- Fires rules as long as they can fire. -/
def fire : List (Bytes × Bytes) → Wire → Wire
  | [], w => { w with rules := [] }
  | (on, reply) :: rest, w =>
    match Bytes.indexOf? on w.unmatched with
    | none => { w with rules := (on, reply) :: rest }
    | some i =>
      fire rest { w with
        unmatched := w.unmatched.drop (i + on.length)
        toBench := w.toBench ++ reply }

/-- Sends bytes to the far end. -/
def send (bytes : Bytes) (w : Wire) : Wire :=
  fire w.rules { w with unmatched := w.unmatched ++ bytes, fromBench := w.fromBench ++ bytes }

/-- The far end prints. -/
def print (bytes : Bytes) (w : Wire) : Wire := { w with toBench := w.toBench ++ bytes }

end Wire
end BoardBench.Sim
