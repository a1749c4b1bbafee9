import BoardBench.Helper.Reader
import BoardBench.Helper.Spec
import BoardBench.Machine.Files
import BoardBench.Machine.Processes
import BoardBench.Text.Utf8

/-!
# Helpers

A helper is started, waited for until it is ready, and stopped when it is no longer needed: it is
asked to stop, and killed if it does not. What it printed is kept for error messages. A helper that
failed by itself before it was stopped is an error.
-/

namespace BoardBench

/-- A helper that was started. -/
structure Helper where
  program : String
  pid : Nat
  reader : HelperReader
  /-- Whether there may be more output. -/
  reading : Bool
  /-- Whether the helper is still to be stopped. -/
  running : Bool
  stopTimeout : Span
  /-- How often the helper had to be killed. -/
  forcedKills : Nat
  deriving Repr

/-- A helper together with the machine that it runs on. -/
structure Tended (δ : Type) where
  helper : Helper
  machine : δ

namespace Helper

/-- How often a file that is waited for is looked for. -/
def pathStep : Span := .ofMillis 10

/-- Shortest wait for the end of a helper once its output has ended. -/
def exitGrace : Span := .ofMillis 50

variable {δ : Type} [Bench δ] [Processes δ]

/-- Why reading a helper's output came to a stop. -/
inductive Pause where
  | ready
  | ended
  /-- The time was over. -/
  | late
  deriving DecidableEq, Repr

/-- Reads output until it ends or the deadline is over; with `forMarker` also until the helper is
found ready. -/
def readUntil (forMarker : Bool) (deadline : Nat) (h : Helper) (d : δ) : Pause × Helper × δ :=
  if deadline < Bench.now d then (.late, h, d)
  else if !h.reading then (.ended, h, d)
  else
    match _h : Processes.awaitOutput h.pid ⟨deadline - Bench.now d⟩ d with
    | (.chunk bytes, d') =>
      let h' := { h with reader := h.reader.feed bytes }
      if forMarker && h'.reader.ready then (.ready, h', d') else readUntil forMarker deadline h' d'
    | (.ended, d') => (.ended, { h with reading := false }, d')
    | (.nothing, d') => (.late, h, d')
termination_by (deadline + 1 - Bench.now d, Processes.outputBacklog h.pid d)
decreasing_by
  have := Processes.awaitOutput_chunk _ _ _ _ _ _h
  simp only [Prod.lex_def]
  omega

/-- Reads the output that has come by now. -/
def catchUp : Act (Tended δ) Unit := fun t =>
  let (_, h, d) := readUntil false (Bench.now t.machine) t.helper t.machine
  (.ok (), ⟨h, d⟩)

/-- Reads output until it ends, at most for `wait`. -/
def join (wait : Span) : Act (Tended δ) Unit := fun t =>
  let (_, h, d) := readUntil false (Bench.now t.machine + wait.nanos) t.helper t.machine
  (.ok (), ⟨h, d⟩)

/-- Everything that the helper has printed by now. -/
def output : Act (Tended δ) String := do
  catchUp
  return Text.lossy (← Act.state).helper.reader.output

/-- How the process ended, waiting for it at most so long. -/
def awaitStatus (wait : Span) : Act (Tended δ) (Option ExitStatus) := fun t =>
  let (status, d) := Processes.awaitExit t.helper.pid wait t.machine
  (status.mapError .io, { t with machine := d })

/-- Waits for the helper to end by itself; none if it has not, or was stopped. -/
def waitExit (wait : Span) : Act (Tended δ) (Option ExitStatus) := do
  if (← Act.state).helper.running then awaitStatus wait else return none

/-- Sends a stop signal. -/
def sendSignal (signal : StopSignal) : Act (Tended δ) Unit :=
  Act.change fun t => { t with machine := Processes.signal t.helper.pid signal t.machine }

def note (level : Level) (text : String) : Act (Tended δ) Unit :=
  Act.change fun t => { t with machine := Bench.note level text t.machine }

/-- Asks the process to stop; kills it if it has not ended in time. -/
def stop : Act (Tended δ) (Option ExitStatus) := do
  let t ← Act.state
  let h := t.helper
  let deadline := Bench.now t.machine + h.stopTimeout.nanos
  sendSignal .term
  join h.stopTimeout
  let left := deadline - Bench.now (← Act.state).machine
  match ← awaitStatus ⟨max left exitGrace.nanos⟩ with
  | some status => return some status
  | none =>
    note .warn (h.program ++ " (pid " ++ toString h.pid ++ ") ignored SIGTERM for " ++
      h.stopTimeout.text ++ ", killing it")
    sendSignal .kill
    Act.change fun t =>
      { t with helper := { t.helper with forcedKills := t.helper.forcedKills + 1 } }
    let status ← awaitStatus .max
    join h.stopTimeout
    if (← Act.state).helper.reading then
      note .warn (h.program ++ " output reader did not finish, detaching it")
    return status

/-- Takes note that the helper is no longer to be stopped. -/
def release : Act (Tended δ) Unit :=
  Act.change fun t => { t with helper := { t.helper with running := false } }

/-- The error of a helper. -/
def failure (program reason output : String) : Error := .service program reason output

/-- Stops the helper if it has not been stopped. It is an error if it had failed before. -/
def kill : Act (Tended δ) Unit := do
  let h := (← Act.state).helper
  if h.running then
    release
    let early ← awaitStatus .zero
    let _ ← stop
    match early with
    | some status =>
      unless status.isSuccess do
        Act.fail (failure h.program ("exited with " ++ status.text) (← output))
    | none => return ()

/-- Stops the helper if it has not been stopped, and gives how it ended, if that can be told. -/
def killQuietly : Act (Tended δ) (Option ExitStatus) := do
  let h := (← Act.state).helper
  if h.running then
    release
    match ← Act.attempt stop with
    | .ok status => return status
    | .error e =>
      note .warn ("Stopping " ++ h.program ++ " failed: " ++ e.message)
      return none
  else return none

/-- Ends the life of a helper: it is stopped if it still runs. -/
def drop (t : Tended δ) : Tended δ := (killQuietly t).2

/-- Starts the process of a helper. -/
def launch (spec : HelperSpec) : Act δ Helper := fun d =>
  match Processes.spawn ⟨spec.program, spec.args, spec.cwd, false⟩ d with
  | (.error f, d) => (.error (failure spec.program ("spawn failed: " ++ f.text) ""), d)
  | (.ok pid, d) =>
    (.ok { program := spec.program, pid, reader := .start (Bytes.ofText spec.marker), reading := true,
           running := true, stopTimeout := spec.stopTimeout, forcedKills := 0 }, d)

/-- An action on a helper and its machine, as one of the machine that also gives the helper. -/
def tending {α : Type} (h : Helper) (x : Act (Tended δ) α) : Act δ (Except Error α × Helper) :=
  fun d =>
    let (r, t) := x ⟨h, d⟩
    (.ok (r, t.helper), t.machine)

/-- Waits until a helper is ready. One that is not ready in time, or ends before, is stopped, and
what it printed goes into the error. -/
def awaitReady (spec : HelperSpec) : Act (Tended δ) Unit := do
  let t ← Act.state
  let deadline := Bench.now t.machine + spec.readyTimeout.nanos
  let (pause, h, d) := readUntil true deadline t.helper t.machine
  Act.change fun _ => ⟨h, d⟩
  if pause = .ready then
    note .info (spec.program ++ " ready after " ++ (Span.mk (Bench.now d - Bench.now t.machine)).text)
  else
    let reason := if pause = .late then "not ready within " ++ spec.readyTimeout.text
      else "exited before becoming ready"
    let status ← killQuietly
    let reason := match status with
      | some s => if s.isSuccess then reason else reason ++ " (" ++ s.text ++ ")"
      | none => reason
    Act.fail (failure spec.program reason (← output))

variable [Files δ]

/-- Waits for the file that must be there before a helper is started. -/
def awaitPath (spec : HelperSpec) : Act δ Unit := fun d =>
  match spec.waitForPath with
  | none => (.ok (), d)
  | some path =>
    match Files.waitFor path pathStep spec.pathTimeout d with
    | (true, d) => (.ok (), d)
    | (false, d) =>
      (.error (failure spec.program (path ++ " did not appear within " ++ spec.pathTimeout.text) ""), d)

/-- Starts a helper and waits until it is ready. -/
def start (spec : HelperSpec) : Act δ Helper := do
  awaitPath spec
  let h ← launch spec
  let (r, h) ← tending h (awaitReady spec)
  let _ ← Act.ofExcept r
  return h

/-- Runs an action with a helper, which is stopped afterwards however the action ends. An error of
the action wins over one of the helper. -/
def around {α : Type} (spec : HelperSpec) (x : Act (Tended δ) α) : Act δ α := do
  let h ← start spec
  let (r, h) ← tending h x
  let (stopped, _) ← tending h kill
  let value ← Act.ofExcept r
  let _ ← Act.ofExcept stopped
  return value

end Helper
end BoardBench
