import BoardBench.Host
import BoardBench.Proofs.Session.Failing

/-!
# The steps of a reboot

The ways to reboot a board that there are, as data, and what each of them does as a list of steps, of
which each is made only after the one before it has succeeded (`Strategy.reboot_eq`). Of most steps
whatever goes wrong is made an error of the reboot. Three kinds of steps are not guarded so: dropping
what the board has printed, showing something to the operator, and starting an emulator again. Their
errors come out as they are (`Step.run_fails`).
-/

namespace BoardBench

open Act Session

/-- A way to reboot a board. -/
inductive Strategy (δ : Type) where
  | byLines (lines : BoardLines δ)
  | byHand (timeout : Span)
  | byProbe (spec : HelperSpec) (exitTimeout : Span)
  | byRestart

namespace Strategy

variable {δ : Type} [Bench δ] [Transport δ] [Processes δ] [Files δ] [Operator δ]

def rebooter : Strategy δ → Rebooter δ
  | byLines b => .byLines b
  | byHand timeout => .interactive timeout
  | byProbe spec exitTimeout => .debugger spec exitTimeout
  | byRestart => .emulator

/-- A step of a reboot. -/
inductive Step (δ : Type) where
  /-- Takes note of something, which may name the transport. -/
  | say (text : String → String)
  /-- There is no such reboot. -/
  | refuse (reason : String)
  | drive (line : OutputLine δ) (active : Bool)
  | settle (t : Span)
  /-- Drops what the board has printed. -/
  | drain
  /-- Drops what the operator has typed. -/
  | discard
  | display (text : String)
  | refresh
  | confirm (timeout : Span)
  | probe (spec : HelperSpec) (exitTimeout : Span)
  | restart

namespace Step

def run : Step δ → Act (Session δ) Unit
  | say text => do Session.note .info (text (Transport.name (← Act.state).device))
  | refuse reason => Act.fail (.reboot reason)
  | drive line active => line.set active
  | settle t => Session.sleep t
  | drain => clearBuffer
  | discard => touch Operator.discardLines
  | display text => Rebooter.onScreen (Operator.display text)
  | refresh => Rebooter.onScreen Operator.refresh
  | confirm timeout => do
    let typed ← Session.onDevice fun d =>
      let (typed, d') := Operator.awaitLine timeout d
      (.ok typed, d')
    match typed with
    | .line _ => Session.note .info "Operator confirmed the reboot"
    | .nothing => Act.fail (.reboot ("reboot not confirmed within " ++ timeout.text))
    | .closed =>
      Act.fail (.reboot "operator input closed before the reboot was confirmed")
  | probe spec exitTimeout => do
    let reset : Act δ (Option ExitStatus) := Helper.around spec (Helper.waitExit exitTimeout)
    let _ ← (Session.onDevice reset).mapError fun e =>
      .reboot ("debugger reset failed: " ++ e.message)
  | restart => reopen

/-- Whether all that goes wrong in the step is made an error of the reboot. -/
def guarded : Step δ → Bool
  | drain | display _ | refresh | restart => false
  | _ => true

/-- One step after the other. -/
def runAll : List (Step δ) → Act (Session δ) Unit
  | [] => return ()
  | step :: rest => do
    step.run
    runAll rest

/-- A step failed, and those before it did not. -/
inductive FailsAt : List (Step δ) → Session δ → Step δ → Error → Session δ → Prop
  | here {step rest s e s'} : step.run s = (.error e, s') → FailsAt (step :: rest) s step e s'
  | later {step rest s t failed e s'} : step.run s = (.ok (), t) → FailsAt rest t failed e s' →
      FailsAt (step :: rest) s failed e s'

theorem runAll_append (steps steps' : List (Step δ)) :
    runAll (steps ++ steps') = (do
      runAll steps
      runAll steps') := by
  induction steps with
  | nil => rfl
  | cons step steps ih =>
    rw [List.cons_append, runAll, ih, runAll, Act.bind_assoc]

theorem runAll_eq_error_iff {steps : List (Step δ)} {s s' : Session δ} {e : Error} :
    runAll steps s = (.error e, s') ↔ ∃ step, FailsAt steps s step e s' := by
  constructor
  · intro h
    induction steps generalizing s with
    | nil => cases h
    | cons step rest ih =>
      obtain hfail | ⟨_, t, hok, hrest⟩ := Act.bind_error_iff.1 h
      · exact ⟨step, .here hfail⟩
      · obtain ⟨failed, hat⟩ := ih hrest
        exact ⟨failed, .later hok hat⟩
  · rintro ⟨step, h⟩
    induction h with
    | here hfail => exact Act.bind_error hfail
    | later hok _ ih =>
      rw [runAll, Act.bind_ok hok]
      exact ih

/-- What goes wrong in a guarded step is an error of the reboot; of the others it is what the transport
or the system raised. -/
theorem run_fails (step : Step δ) :
    FailsOnly (fun e => if step.guarded then ∃ reason, e = .reboot reason else Transport.Raises δ e)
      step.run := by
  have screen (f : δ → Except Fault Unit × δ) : FailsOnly (Transport.Raises δ) (Rebooter.onScreen f) := by
    intro s e s' h
    unfold Rebooter.onScreen Session.onDevice at h
    obtain ⟨d, hd, -⟩ := Act.zoom_eq_iff.1 h
    split at hd <;> cases hd
    exact .fault _
  cases step with
  | say text => exact FailsOnly.state.bind fun _ => note_fails _ _
  | refuse reason => exact .fail ⟨_, rfl⟩
  | drive line active =>
    exact FailsOnly.mapError (P := fun _ => True) (fun _ _ _ _ => trivial) fun _ _ => ⟨_, rfl⟩
  | settle t => exact sleep_fails t
  | drain => exact clearBuffer_fails
  | discard => exact touch_fails _
  | display text => exact screen _
  | refresh => exact screen _
  | confirm timeout =>
    refine FailsOnly.bind (.zoom fun d e d' h => ?_) fun typed => ?_
    · cases h
    · cases typed with
      | line _ => exact note_fails _ _
      | nothing => exact .fail ⟨_, rfl⟩
      | closed => exact .fail ⟨_, rfl⟩
  | probe spec exitTimeout =>
    refine FailsOnly.bind ?_ fun _ => .pure ()
    exact FailsOnly.mapError (P := fun _ => True) (fun _ _ _ _ => trivial) fun _ _ => ⟨_, rfl⟩
  | restart => exact reopen_fails

theorem FailsAt.raises {steps : List (Step δ)} {s s' : Session δ} {step : Step δ} {e : Error}
    (h : FailsAt steps s step e s') :
    if step.guarded then ∃ reason, e = .reboot reason else Transport.Raises δ e := by
  induction h with
  | here hfail => exact run_fails _ _ _ _ hfail
  | later _ _ ih => exact ih

end Step

open Step

/-- The power is taken away and given back. -/
def cycle (b : BoardLines δ) : List (Step δ) :=
  [drive b.power false, settle b.timings.powerOff, drain, drive b.power true,
    settle b.timings.powerOn]

/-- The reset line is pulsed, if there is one. -/
def pulse (b : BoardLines δ) : List (Step δ) :=
  match b.reset with
  | none => cycle b
  | some reset =>
    [drive reset true, settle b.timings.resetPulse, drain, drive reset false,
      settle b.timings.powerOn]

/-- What is done to reboot a board. -/
def steps (options : RebootOptions) : Strategy δ → List (Step δ)
  | byLines b =>
    say (fun name => "Rebooting " ++ name ++ " (" ++
      (if options.hard then "power cycle" else "reset") ++ ", " ++
      (if options.flash then "flash" else "normal") ++ " boot)") ::
    (match b.boot with
      | some boot => [drive boot options.flash]
      | none =>
        if options.flash then [refuse "no boot select line, cannot boot into flash mode"] else []) ++
    (if options.hard then cycle b else pulse b)
  | byHand timeout =>
    [discard, drain, display (Rebooter.instruction options timeout), refresh, confirm timeout]
  | byProbe spec exitTimeout =>
    (if options.flash then [refuse "a debugger reset cannot select the flash boot source"] else []) ++
    [say fun _ => "Resetting core through " ++ spec.program, drain, probe spec exitTimeout]
  | byRestart => [say fun _ => "Restarting emulator (" ++ options.text ++ ")", restart]

theorem powerCycle_eq (b : BoardLines δ) : Rebooter.powerCycle b = runAll (cycle b) := by
  simp only [Rebooter.powerCycle, cycle, runAll, run, Act.bind_unit]

theorem pulseReset_eq (b : BoardLines δ) : Rebooter.pulseReset b = runAll (pulse b) := by
  unfold Rebooter.pulseReset pulse
  cases b.reset with
  | none => exact powerCycle_eq b
  | some reset => simp only [runAll, run, Act.bind_unit]

/-- A reboot is its steps. -/
theorem reboot_eq (strategy : Strategy δ) (options : RebootOptions) :
    strategy.rebooter.reboot options = runAll (strategy.steps options) := by
  cases strategy with
  | byLines b =>
    simp only [rebooter, Rebooter.byLines, steps, List.cons_append, runAll, runAll_append, run,
      Act.bind_assoc, powerCycle_eq, pulseReset_eq]
    cases b.boot <;> cases options.flash <;> cases options.hard <;>
      simp only [runAll, run, Act.bind_unit] <;> rfl
  | byHand timeout =>
    simp only [steps, runAll, run, Act.bind_unit]
    rfl
  | byProbe spec exitTimeout =>
    simp only [rebooter, Rebooter.debugger, steps, runAll, runAll_append, run, Act.bind_unit]
    cases options.flash <;> rfl
  | byRestart =>
    simp only [steps, runAll, run, Act.bind_unit]
    rfl

end Strategy
end BoardBench
