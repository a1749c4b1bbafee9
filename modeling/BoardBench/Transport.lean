import BoardBench.Bytes
import BoardBench.Machine.Bench

/-!
# Transports

How a board's console is reached. A read waits no longer than the timeout; a read of no bytes means that
the stream has ended. The laws say what waiting needs in order to end: each read that gives bytes, or
comes to nothing, takes time or uses up a part of what the transport holds ready, and a write is
interrupted no more than so many times.
-/

namespace BoardBench

/-- A byte transport to a board. -/
class Transport (δ : Type) [Bench δ] where
  name : δ → String
  timeout : δ → Span
  setTimeout : Span → Act δ Unit
  /-- At most so many bytes. -/
  read : Nat → δ → Except Fault Bytes × δ
  /-- How many of the bytes were taken. -/
  write : Bytes → δ → Except Fault Nat × δ
  flush : δ → Except Fault Unit × δ
  /-- Forgets what has arrived and was not read. -/
  clear : Act δ Unit
  reopen : Act δ Unit
  close : Act δ Unit
  /-- A bound on the reads that can be served without waiting. -/
  backlog : δ → Nat
  /-- A bound on the writes that can be interrupted one after the other. -/
  interruptions : δ → Nat
  setTimeout_ok : ∀ (t : Span) (d d' : δ), setTimeout t d = (.ok (), d') →
    timeout d' = t ∧ (Bench.now d < Bench.now d' ∨ Bench.now d = Bench.now d' ∧ backlog d' ≤ backlog d)
  read_data : ∀ (n : Nat) (d d' : δ) (b : UInt8) (bs : Bytes), read n d = (.ok (b :: bs), d') →
    Bench.now d < Bench.now d' ∨ Bench.now d = Bench.now d' ∧ backlog d' < backlog d
  read_idle : ∀ (n : Nat) (d d' : δ) (f : Fault), read n d = (.error f, d') → f.kind.isIdle →
    0 < (timeout d).nanos → Bench.now d < Bench.now d' ∨ Bench.now d = Bench.now d' ∧ backlog d' < backlog d
  write_interrupted : ∀ (bytes : Bytes) (d d' : δ) (f : Fault), write bytes d = (.error f, d') →
    f.kind = .interrupted → interruptions d' < interruptions d

namespace Transport

variable {δ : Type} [Bench δ] [Transport δ]

/-- Writes bytes until all are taken; a write that is interrupted is made again. -/
def writeLoop (bytes : Bytes) (d : δ) : Except Fault Unit × δ :=
  if bytes.isEmpty then (.ok (), d)
  else
    match _h : write bytes d with
    | (.error f, d') => if f.kind = .interrupted then writeLoop bytes d' else (.error f, d')
    | (.ok 0, d') => (.error ⟨.writeZero, "failed to write whole buffer"⟩, d')
    | (.ok (n + 1), d') => writeLoop (bytes.drop (n + 1)) d'
termination_by (bytes.length, interruptions d)
decreasing_by
  · exact .right _ (write_interrupted _ _ _ _ _h (by assumption))
  · cases bytes with
    | nil => simp_all
    | cons => simp only [Prod.lex_def, List.length_drop, List.length_cons]; omega

/-- Writes all of the bytes and waits until they are out. -/
def writeAll (bytes : Bytes) : Act δ Unit := fun d =>
  match writeLoop bytes d with
  | (.error f, d') => (.error (.io f), d')
  | (.ok _, d') =>
    match flush d' with
    | (.error f, d'') => (.error (.io f), d'')
    | (.ok _, d'') => (.ok (), d'')

/-- The answer of a transport that cannot be torn down and brought up again. -/
def cannotReopen (name : String) : Error :=
  .unsupported ("transport " ++ name ++ " cannot be reopened")

end Transport
end BoardBench
