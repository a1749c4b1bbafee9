import BoardBench.Machine.Processes

/-!
# Consoles of processes

The console of an emulator is the input of its process and its output. Output arrives in pieces; of a
piece that a read did not take the rest is pending for the next.
-/

namespace BoardBench

/-- How an emulator is started and stopped. -/
structure ProcessConfig where
  program : String
  args : List String := []
  cwd : Option String := none
  /-- How long it has to stop when asked. -/
  stopTimeout : Span := .ofSeconds 5
  deriving DecidableEq, Repr

/-- The console of a process that can be started again. -/
structure ProcessConsole where
  config : ProcessConfig
  /-- The process, while there is one. -/
  child : Option Nat
  /-- Output that was received and not yet read. -/
  pending : Bytes
  timeout : Span
  deriving Repr

namespace ProcessConsole

def closedFault : Fault := ⟨.notConnected, "process port closed"⟩

variable {δ : Type} [Bench δ] [Processes δ]

/-- Starts the process. -/
def start (c : ProcessConsole) (d : δ) : Except Error Unit × ProcessConsole × δ :=
  match Processes.spawn ⟨c.config.program, c.config.args, c.config.cwd, true⟩ d with
  | (.ok p, d) => (.ok (), { c with child := some p, pending := [] }, d)
  | (.error f, d) => (.error (.io f), c, d)

/-- A console of a new process. -/
def spawn (config : ProcessConfig) (d : δ) : Except Error Unit × ProcessConsole × δ :=
  start ⟨config, none, [], .ofMillis 100⟩ d

/-- Stops the process, if there is one. If that fails, the console has lost the process, but keeps what
was pending. -/
def stop (c : ProcessConsole) (d : δ) : Except Error Unit × ProcessConsole × δ :=
  match c.child with
  | none => (.ok (), c, d)
  | some p =>
    match Processes.stop p c.config.stopTimeout (Processes.closeInput p d) with
    | (.error f, d) => (.error (.io f), { c with child := none }, d)
    | (.ok _, d) =>
      let (finished, d) := Processes.discardUntil p (Bench.now d + c.config.stopTimeout.nanos) d
      let d := if finished then d else
        Bench.note .warn ("Console reader of " ++ c.config.program ++ " still running, detaching it") d
      (.ok (), { c with child := none, pending := [] }, d)

/-- Stops the process and starts a new one. -/
def reopen (c : ProcessConsole) (d : δ) : Except Error Unit × ProcessConsole × δ :=
  match stop c d with
  | (.error e, c, d) => (.error e, c, d)
  | (.ok _, c, d) => start c d

/-- Gives at most `n` of the pending bytes. -/
def take (n : Nat) (c : ProcessConsole) : Bytes × ProcessConsole :=
  (c.pending.take n, { c with pending := c.pending.drop n })

/-- Reads at most `n` bytes. -/
def read (n : Nat) (c : ProcessConsole) (d : δ) : Except Fault Bytes × ProcessConsole × δ :=
  if n = 0 then (.ok [], c, d)
  else if !c.pending.isEmpty then (.ok (c.take n).1, (c.take n).2, d)
  else
    match c.child with
    | none => (.error closedFault, c, d)
    | some p =>
      match Processes.awaitOutput p c.timeout d with
      | (.chunk bytes, d) =>
        let c := { c with pending := bytes }
        (.ok (c.take n).1, (c.take n).2, d)
      | (.ended, d) => (.ok [], c, d)
      | (.nothing, d) => (.error ⟨.timedOut, "no output"⟩, c, d)

/-- Sends bytes as input. -/
def write (bytes : Bytes) (c : ProcessConsole) (d : δ) : Except Fault Nat × δ :=
  match c.child with
  | none => (.error closedFault, d)
  | some p => Processes.sendInput p bytes d

def flush (c : ProcessConsole) : Except Fault Unit :=
  if c.child.isSome then .ok () else .error closedFault

/-- Drops the output that has arrived. -/
def clear (c : ProcessConsole) (d : δ) : ProcessConsole × δ :=
  let c := { c with pending := [] }
  match c.child with
  | none => (c, d)
  | some p => (c, Processes.discardArrived p d)

end ProcessConsole
end BoardBench
