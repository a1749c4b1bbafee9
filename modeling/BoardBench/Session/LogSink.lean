import BoardBench.Bytes

/-!
# Traffic logs

A sink is given a copy of the traffic of a session. It may refuse any of the requests made of it, to take
bytes or to bring what it took to its place.
-/

namespace BoardBench

/-- What a sink was asked to do. -/
inductive LogEntry where
  | data (bytes : Bytes)
  | flush
  deriving DecidableEq, Repr

/-- A sink for a copy of the traffic. -/
structure LogSink where
  /-- Whether the sink refuses a request that is its n-th. -/
  refuses : Nat → LogEntry → Bool
  /-- How many requests there were. -/
  requests : Nat
  /-- What the sink took, the latest first. -/
  taken : List LogEntry

namespace LogSink

/-- A sink that takes everything, after what it already has. -/
def working (taken : List LogEntry) : LogSink := ⟨fun _ _ => false, 0, taken⟩

/-- A sink that refuses every write. -/
def broken (taken : List LogEntry) : LogSink := ⟨fun _ e => e != .flush, 0, taken⟩

/-- Makes a request; also says whether the sink has met it. -/
def ask (e : LogEntry) (s : LogSink) : Bool × LogSink :=
  let refused := s.refuses s.requests e
  (!refused, { s with
    requests := s.requests + 1
    taken := if refused then s.taken else e :: s.taken })

/-- Gives the sink bytes; where there are none there is nothing to ask. -/
def write (bytes : Bytes) (s : LogSink) : Bool × LogSink :=
  if bytes.isEmpty then (true, s) else s.ask (.data bytes)

/-- Asks the sink to bring what it took to its place. -/
def flush (s : LogSink) : Bool × LogSink := s.ask .flush

/-- What the sink took, in order. -/
def entries (s : LogSink) : List LogEntry := s.taken.reverse

end LogSink
end BoardBench
