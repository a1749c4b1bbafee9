import BoardBench.Bytes
import BoardBench.Machine.Bench

/-!
# Processes

Programs that are started next to the bench, each as the leader of a group of its own, with its two
output streams joined into one. What a process prints is received in pieces; the laws say that a
piece is used up by being received. To wait for the end of a process can fail.
-/

namespace BoardBench

/-- How to start a program. -/
structure Launch where
  program : String
  args : List String
  /-- Where it is started; where the bench runs, if none. -/
  cwd : Option String
  /-- Whether it can be sent input. -/
  withInput : Bool
  deriving DecidableEq, Repr

/-- How a process ended. -/
inductive ExitStatus where
  | code (n : Nat)
  | signal (n : Nat)
  deriving DecidableEq, Repr

/-- Names of the signals, from number one on. -/
def signalNames : List String := [
  "SIGHUP", "SIGINT", "SIGQUIT", "SIGILL", "SIGTRAP", "SIGABRT", "SIGBUS", "SIGFPE", "SIGKILL",
  "SIGUSR1", "SIGSEGV", "SIGUSR2", "SIGPIPE", "SIGALRM", "SIGTERM", "SIGSTKFLT", "SIGCHLD",
  "SIGCONT", "SIGSTOP", "SIGTSTP", "SIGTTIN", "SIGTTOU", "SIGURG", "SIGXCPU", "SIGXFSZ",
  "SIGVTALRM", "SIGPROF", "SIGWINCH", "SIGIO", "SIGPWR", "SIGSYS"]

namespace ExitStatus

def isSuccess : ExitStatus → Bool
  | code 0 => true
  | _ => false

/-- The status in words. -/
def text : ExitStatus → String
  | code n => "exit status: " ++ toString n
  | signal n =>
    "signal: " ++ toString n ++
      (if n = 0 then "" else (signalNames[n - 1]?.map fun s => " (" ++ s ++ ")").getD "")

end ExitStatus

/-- A request to a group of processes to stop. -/
inductive StopSignal where
  /-- Asks; the group may ignore it. -/
  | term
  | kill
  deriving DecidableEq, Repr

/-- What comes of waiting for output. -/
inductive Output where
  | chunk (bytes : Bytes)
  /-- There will be no more. -/
  | ended
  /-- Nothing came in time. -/
  | nothing
  deriving DecidableEq, Repr

/-- How often a process that is waited for is looked at. -/
def exitStep : Span := .ofMillis 10

/-- A look at whether a process has ended, and how. It does not set the clock back. -/
structure ExitProbe (δ : Type) [Bench δ] where
  look : δ → Option ExitStatus × δ
  now_look : ∀ d, Bench.now d ≤ Bench.now (look d).2

namespace ExitProbe

variable {δ : Type} [Bench δ]

/-- Looks every step until the process has ended or `limit` has passed since `start`. -/
def waitSince (p : ExitProbe δ) (limit : Span) (start : Nat) (d : δ) : Option ExitStatus × δ :=
  match _h : p.look d with
  | (some status, d') => (some status, d')
  | (none, d') =>
    if limit.nanos ≤ Bench.now d' - start then (none, d')
    else waitSince p limit start (Bench.sleep exitStep d')
termination_by start + limit.nanos - Bench.now d
decreasing_by
  have hlook := p.now_look d
  rw [_h] at hlook
  rw [Bench.now_sleep]
  simp only [exitStep, Span.ofMillis] at *
  omega

/-- Waits for the end of the process, at most for `limit`. -/
def waitFor (p : ExitProbe δ) (limit : Span) (d : δ) : Option ExitStatus × δ :=
  p.waitSince limit (Bench.now d) d

end ExitProbe

/-- A machine that runs processes. -/
class Processes (δ : Type) [Bench δ] where
  spawn : Launch → δ → Except Fault Nat × δ
  /-- How the process ended, if it did, waiting for it at most so long. -/
  awaitExit : Nat → Span → δ → Except Fault (Option ExitStatus) × δ
  signal : Nat → StopSignal → δ → δ
  /-- The next piece of output, waiting for it at most so long. -/
  awaitOutput : Nat → Span → δ → Output × δ
  /-- The next piece of output if it has arrived. -/
  takeOutput : Nat → δ → Option Bytes × δ
  /-- How many of the bytes sent as input were taken. -/
  sendInput : Nat → Bytes → δ → Except Fault Nat × δ
  closeInput : Nat → δ → δ
  /-- A bound on the pieces of output that can be received without waiting. -/
  outputBacklog : Nat → δ → Nat
  awaitOutput_chunk : ∀ (p : Nat) (t : Span) (d d' : δ) (bs : Bytes),
    awaitOutput p t d = (.chunk bs, d') →
      Bench.now d < Bench.now d' ∨ Bench.now d = Bench.now d' ∧ outputBacklog p d' < outputBacklog p d
  takeOutput_some : ∀ (p : Nat) (d d' : δ) (bs : Bytes),
    takeOutput p d = (some bs, d') → outputBacklog p d' < outputBacklog p d

namespace Processes

variable {δ : Type} [Bench δ] [Processes δ]

/-- Receives and drops output until it ends (true) or the deadline is over. -/
def discardUntil (p deadline : Nat) (d : δ) : Bool × δ :=
  if deadline < Bench.now d then (false, d)
  else
    match _h : awaitOutput p ⟨deadline - Bench.now d⟩ d with
    | (.chunk _, d') => discardUntil p deadline d'
    | (.ended, d') => (true, d')
    | (.nothing, d') => (false, d')
termination_by (deadline + 1 - Bench.now d, outputBacklog p d)
decreasing_by
  have := awaitOutput_chunk _ _ _ _ _ _h
  simp only [Prod.lex_def]
  omega

/-- Drops the output that has arrived, until no more is there. -/
def discardArrived (p : Nat) (d : δ) : δ :=
  match _h : takeOutput p d with
  | (some _, d') => discardArrived p d'
  | (none, d') => d'
termination_by outputBacklog p d
decreasing_by exact takeOutput_some _ _ _ _ _h

/-- Asks a process to stop, and kills it if it has not ended within `grace`. Also says whether it
had to be killed. -/
def stop (p : Nat) (grace : Span) (d : δ) : Except Fault (Option ExitStatus × Bool) × δ :=
  match awaitExit p .zero d with
  | (.error f, d) => (.error f, d)
  | (.ok (some status), d) => (.ok (some status, false), d)
  | (.ok none, d) =>
    match awaitExit p grace (signal p .term d) with
    | (.error f, d) => (.error f, d)
    | (.ok (some status), d) => (.ok (some status, false), d)
    | (.ok none, d) =>
      let d := Bench.note .warn ("Process " ++ toString p ++ " ignored SIGTERM for " ++ grace.text ++
        ", killing it") d
      match awaitExit p .max (signal p .kill d) with
      | (.error f, d) => (.error f, d)
      | (.ok status, d) => (.ok (status, true), d)

end Processes
end BoardBench
