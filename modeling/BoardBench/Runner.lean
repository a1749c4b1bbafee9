import BoardBench.Harness.Pipeline

/-!
# Runs

A run programs the board if asked to, and then runs tests in order. After each test it is decided
whether the next one reboots the board first: it does after a failure, in nightly mode, and before a
test that enters the bootloader. A skipped test leaves the board as it found it, so what was decided
for it holds for the next.
-/

namespace BoardBench

/-- What a run does. -/
structure RunPlan where
  /-- Reboot before every test. -/
  nightly : Bool := false
  /-- Program the board first. -/
  flash : Bool := true
  /-- Run the tests. -/
  test : Bool := true
  deriving DecidableEq, Repr

/-- Count of the outcomes of tests. -/
structure Summary where
  passed : Nat := 0
  failed : Nat := 0
  skipped : Nat := 0
  deriving DecidableEq, Repr

namespace Summary

/-- Counts one outcome. -/
def record (status : Status) (s : Summary) : Summary :=
  match status with
  | .ok => { s with passed := s.passed + 1 }
  | .fail => { s with failed := s.failed + 1 }
  | .skip => { s with skipped := s.skipped + 1 }

def total (s : Summary) : Nat := s.passed + s.failed + s.skipped

/-- Whether no test failed. -/
def isSuccess (s : Summary) : Bool := s.failed = 0

/-- The counts in words. -/
def text (s : Summary) : String :=
  toString s.passed ++ " passed, " ++ toString s.failed ++ " failed, " ++ toString s.skipped ++ " skipped"

end Summary

/-- What those who watch a run are told. -/
inductive Report where
  | started (name : String)
  | finished (name : String) (verdict : Verdict)
  /-- The run is over. -/
  | summary (summary : Summary)
  deriving DecidableEq, Repr

/-- Who watches a run, and may stop it. -/
structure Watcher (δ : Type) where
  flashProgress : Progress δ := fun _ _ _ d => d
  tell : Report → δ → δ
  /-- Whether the run is to stop. -/
  interrupted : δ → Bool × δ

namespace Watcher

variable {δ : Type} [Bench δ]

/-- The line of the log for a report. -/
def logLine : Report → Level × String
  | .started name => (.info, "Running " ++ name)
  | .finished name v =>
    match v.status with
    | .ok => (.info, name ++ ": OK")
    | .fail =>
      (.warn, name ++ ": FAIL" ++ ((v.stage.map fun s => " [" ++ s.text ++ "]").getD "") ++ " " ++ v.message)
    | .skip => (.info, name ++ ": SKIP " ++ v.message)
  | .summary s => (.info, s.text)

/-- Tells the log. -/
def logging (interrupted : δ → Bool × δ) : Watcher δ where
  tell r := Bench.note (logLine r).1 (logLine r).2
  interrupted

end Watcher

/-- A run under way. -/
structure Run (δ : Type) where
  session : Session δ
  /-- What was reported, in order. -/
  reports : List Report := []
  /-- For each test that was reached, whether it reboots the board first. -/
  reboots : List Bool := []

/-- Whether the test after one that ended with `status` reboots first. -/
def nextReboots (current : Bool) (status : Status) (nightly nextNeedsAppLoad : Bool) : Bool :=
  if status = .skip then current else status = .fail || nightly || nextNeedsAppLoad

namespace Run

variable {δ : Type}

/-- An action on the session alone. -/
def onSession {α : Type} (x : Act (Session δ) α) : Act (Run δ) α :=
  Act.zoom (·.session) (fun s r => { r with session := s }) x

/-- Reports something. -/
def report (w : Watcher δ) (what : Report) : Act (Run δ) Unit := do
  Act.change fun r => { r with reports := r.reports ++ [what] }
  onSession (Session.touch (w.tell what))

/-- Ends the run if it is to stop. -/
def checkInterrupt (w : Watcher δ) : Act (Run δ) Unit := do
  let stop ← onSession (Session.onDevice fun d => (.ok (w.interrupted d).1, (w.interrupted d).2))
  if stop then Act.fail .interrupted

/-- The tests that are left, the first of them with what was decided about its reboot. -/
def reschedule (current : Bool) (status : Status) (nightly : Bool) : List (Test δ) → List (Test δ)
  | [] => []
  | t :: rest =>
    { t with shouldReboot := nextReboots current status nightly t.needsAppLoad } :: rest

theorem length_reschedule (current : Bool) (status : Status) (nightly : Bool) (ts : List (Test δ)) :
    (reschedule current status nightly ts).length = ts.length := by
  cases ts <;> rfl

variable [Bench δ] [Transport δ]

/-- Runs one test. -/
def runOne (target : Target δ) (t : Test δ) : Act (Session δ) Verdict :=
  if t.ignore then Pure.pure (.skipped "ignored")
  else
    match t.stages target with
    | .error e => Pure.pure (.failed none e.message)
    | .ok stages => Stage.drive target t.body t.timeout stages

/-- Runs tests in order and counts their outcomes. -/
def runTests (target : Target δ) (nightly : Bool) (w : Watcher δ) :
    List (Test δ) → Summary → Act (Run δ) Summary
  | [], summary => return summary
  | t :: rest, summary => do
    Act.change fun r => { r with reboots := r.reboots ++ [t.shouldReboot] }
    checkInterrupt w
    report w (.started t.name)
    let v ← onSession (runOne target t)
    report w (.finished t.name v)
    runTests target nightly w (reschedule t.shouldReboot v.status nightly rest)
      (summary.record v.status)
termination_by ts => ts.length
decreasing_by simp [length_reschedule]

/-- Programs the board if asked to, then runs the tests if asked to. -/
def execute (target : Target δ) (plan : RunPlan) (w : Watcher δ) (tests : List (Test δ)) :
    Act (Run δ) Summary := do
  if plan.flash then
    onSession (target.flash w.flashProgress)
  let summary ← if plan.test then runTests target plan.nightly w tests {} else Pure.pure {}
  report w (.summary summary)
  return summary

/-- For each of the tests, whether it reboots first, after a run. -/
def rebootsAfter (tests : List (Test δ)) (r : Run δ) : List Bool :=
  r.reboots ++ (tests.drop r.reboots.length).map (·.shouldReboot)

end Run
end BoardBench
