import BoardBench.Proofs.CommandLine.Opening
import BoardBench.Proofs.Runner.Ending
import BoardBench.Proofs.Sim.Failing

/-!
# The exit status of a run

The command that runs tests opens its target and then does the rest (`runTests_eq`). Once the target is
open, only what becomes of the run decides the exit status: 0 if nothing spoiled it, 130 if it was
stopped before a test, and else 1 (`carryOutCall_status`).
-/

namespace BoardBench.CommandLine

open Transport Command

/-! ## The command -/

section

variable {δ : Type} [Bench δ] [Transport δ] [Processes δ] [Files δ] [SerialLines δ] [Operator δ]
  [Consoles δ]

/-- What a run has once its target is open. -/
structure Opened (δ : Type) where
  name : String
  tests : List (Test δ)
  workplace : Workplace δ

/-- The part of a run up to where its target is open. -/
def openRun (choices : Choices) (own : Option String) (noTest : Bool) (only : List String) :
    Command δ (Opened δ) := do
  let config ← ofExcept (Config.load choices.configFile own (← get))
  let (name, _) ← ofExcept (config.target choices.target)
  let tests ← if noTest then pure [] else ofExcept (config.testsFor name only)
  if !noTest && tests.isEmpty then
    note .warn ("No tests configured for " ++ name)
  let workplace ← openTarget choices config
  return { name, tests, workplace }

namespace Opened

/-- Says why the board is not programmed, if it has nothing to be programmed with. -/
def announce (o : Opened δ) (noFlash : Bool) : Command δ Unit :=
  if !noFlash && !o.workplace.target.config.flashImage.isSome then
    note .info (o.name ++ " has no flash image, skipping flashing")
  else pure ()

/-- The bench after that. -/
def announced (o : Opened δ) (noFlash : Bool) (d : δ) : δ := ((o.announce noFlash).run d).2

def plan (o : Opened δ) (noFlash noTest nightly : Bool) : RunPlan where
  nightly
  flash := !noFlash && o.workplace.target.config.flashImage.isSome
  test := !noTest

/-- The run itself. -/
def execute (o : Opened δ) (plan : RunPlan) (quiet : Bool) (d : δ) : Except Error Summary × Run δ :=
  Run.execute o.workplace.target plan (screenWatcher quiet) o.tests { session := o.workplace.session d }

/-- The part of a run from where its target is open. -/
def run (o : Opened δ) (noFlash noTest nightly quiet : Bool) : Command δ Unit := do
  o.announce noFlash
  let summary ← carryOut o.workplace (o.plan noFlash noTest nightly) o.tests quiet
  if !summary.isSuccess then
    throw ⟨.command (.testsFailed summary.failed summary.total), []⟩

end Opened

theorem runTests_eq (choices : Choices) (own : Option String) (noFlash noTest nightly : Bool)
    (only : List String) :
    (runTests choices own noFlash noTest nightly only : Command δ Unit) =
      openRun choices own noTest only >>= fun o => o.run noFlash noTest nightly choices.quiet := by
  unfold runTests openRun Opened.run Opened.announce
  simp only [bind_assoc, pure_bind]
  refine bind_congr fun d => bind_congr fun config => bind_congr fun found => ?_
  cases noTest <;> simp only [Bool.not_true, Bool.not_false, Bool.true_and, Bool.false_and,
    Bool.false_eq_true, if_true, if_false, bind_assoc, pure_bind]
  · refine bind_congr fun tests => ?_
    split <;> simp only [bind_assoc, pure_bind]
    · refine bind_congr fun _ => bind_congr fun w => ?_
      split <;> rfl
    · refine bind_congr fun w => ?_
      split <;> rfl
  · refine bind_congr fun w => ?_
    split <;> rfl

/-- What a run has once its target is open comes from the configuration that was loaded. -/
theorem openRun_eq_ok {choices : Choices} {own : Option String} {noTest : Bool} {only : List String}
    {d d' : δ} {o : Opened δ} (h : (openRun choices own noTest only).run d = (.ok o, d')) :
    ∃ config entry d₁, Config.load choices.configFile own d = .ok config ∧
      config.target choices.target = .ok (o.name, entry) ∧
      (noTest = true ∧ o.tests = [] ∨ config.testsFor o.name only = .ok o.tests) ∧
      (openTarget choices config).run d₁ = (.ok o.workplace, d') := by
  unfold openRun at h
  obtain ⟨d₀, _, hget, h⟩ := bind_ok_iff.1 h
  cases hget
  obtain ⟨config, _, hload, h⟩ := bind_ok_iff.1 h
  obtain ⟨⟨name, entry⟩, _, hentry, h⟩ := bind_ok_iff.1 h
  -- the target is opened last, whatever is said of the tests
  have opened {tests : List (Test δ)} {d₁ : δ}
      (htests : noTest = true ∧ tests = [] ∨ config.testsFor name only = .ok tests)
      (h : (openTarget choices config >>= fun w => pure { name, tests, workplace := w } :
        Command δ (Opened δ)).run d₁ = (.ok o, d')) :
      ∃ config entry d₁, Config.load choices.configFile own d = .ok config ∧
        config.target choices.target = .ok (o.name, entry) ∧
        (noTest = true ∧ o.tests = [] ∨ config.testsFor o.name only = .ok o.tests) ∧
        (openTarget choices config).run d₁ = (.ok o.workplace, d') := by
    obtain ⟨w, _, hw, h⟩ := bind_ok_iff.1 h
    cases h
    exact ⟨config, entry, d₁, ofExcept_ok hload, ofExcept_ok hentry, htests, hw⟩
  cases noTest with
  | true => exact opened (.inl ⟨rfl, rfl⟩) h
  | false =>
    obtain ⟨tests, _, htests, h⟩ := bind_ok_iff.1 h
    dsimp only at h
    split at h
    · obtain ⟨_, _, -, h⟩ := bind_ok_iff.1 h
      exact opened (.inr (ofExcept_ok htests)) h
    · exact opened (.inr (ofExcept_ok htests)) h

theorem openRun_standard {choices : Choices} {own : Option String} {noTest : Bool} {only : List String}
    {d d' : δ} {o : Opened δ} (h : (openRun choices own noTest only).run d = (.ok o, d')) :
    o.workplace.target.Standard ∧ ∀ t ∈ o.tests, t.Standard := by
  obtain ⟨config, _, _, -, -, htests, hopen⟩ := openRun_eq_ok h
  refine ⟨openTarget_standard hopen, ?_⟩
  rcases htests with ⟨-, hnone⟩ | htests
  · rw [hnone]
    exact nofun
  · exact Config.testsFor_standard htests

/-! ## The status -/

omit [SerialLines δ] [Consoles δ] [Processes δ] [Operator δ] in
theorem Workplace.finish_run (w : Workplace δ) (s : Session δ) (d : δ) :
    ∃ d', (w.finish s).run d = (.ok (), d') := by
  unfold Workplace.finish
  rcases hclosed : Session.close s with ⟨closed, s'⟩
  dsimp only
  cases closed <;> cases w.logFile <;> cases s'.log <;> exact ⟨_, rfl⟩

omit [SerialLines δ] [Consoles δ] [Processes δ] in
/-- Whatever becomes of the run is what becomes of the command. -/
theorem carryOut_run (w : Workplace δ) (plan : RunPlan) (tests : List (Test δ)) (quiet : Bool) (d : δ) :
    ∃ d', (carryOut w plan tests quiet).run d =
      ((Run.execute w.target plan (screenWatcher quiet) tests { session := w.session d }).1.mapError
        Failure.ofError, d') := by
  rcases hrun : Run.execute w.target plan (screenWatcher quiet) tests { session := w.session d } with
    ⟨result, run⟩
  obtain ⟨d', hfinish⟩ := w.finish_run run.session d
  refine ⟨d', ?_⟩
  unfold carryOut
  rw [bind_run, get_run]
  dsimp only
  rw [hrun]
  dsimp only
  rw [bind_run, hfinish]
  cases result <;> rfl

/-- The exit status that what came of a command leads to. -/
def Command.status {α : Type} : Except Failure α → Nat
  | .ok _ => 0
  | .error f => f.exitCode

omit [SerialLines δ] [Consoles δ] [Processes δ] in
theorem Opened.run_status (o : Opened δ) (noFlash noTest nightly quiet : Bool) (d : δ) :
    ∃ x d', (o.run noFlash noTest nightly quiet).run d = (x, d') ∧
      status x =
        Run.exitStatus (o.execute (o.plan noFlash noTest nightly) quiet (o.announced noFlash d)).1 := by
  have hannounce : (o.announce noFlash).run d = (.ok (), o.announced noFlash d) := by
    unfold announced announce
    split <;> rfl
  obtain ⟨d', hcarry⟩ :=
    carryOut_run o.workplace (o.plan noFlash noTest nightly) o.tests quiet (o.announced noFlash d)
  rw [← execute] at hcarry
  unfold run
  rw [bind_run, hannounce]
  dsimp only
  rw [bind_run, hcarry]
  rcases (o.execute (o.plan noFlash noTest nightly) quiet (o.announced noFlash d)).1 with error | summary
  · exact ⟨_, _, rfl, rfl⟩
  · cases hsuccess : summary.isSuccess <;> simp only [Except.mapError, hsuccess, Run.exitStatus] <;>
      exact ⟨_, _, rfl, rfl⟩

/-- Unless the operator has asked twice to stop, a call ends with the status of its command. -/
theorem carryOutCall_status_of_run {e : Environment} {choices : Choices} {request : Request} {d d' : δ}
    {x : Except Failure String}
    (h : (say (e.logFilter (Bench.libraries δ).regexes choices).2 *>
      request.perform choices e.ownConfig?).run d = (x, d'))
    (hstop : Operator.stopRequests (carryOutCall e choices request d).2 < 2) :
    (carryOutCall e choices request d).1.status = status x := by
  unfold carryOutCall at hstop ⊢
  simp only [h] at hstop ⊢
  cases x with
  | ok printed => exact if_neg (Nat.not_le.2 hstop)
  | error f => exact if_neg (Nat.not_le.2 hstop)

/-- A run that has its target open does what is left of it. -/
theorem perform_run {choices : Choices} {own : Option String} {warnings : String}
    {noFlash noTest nightly : Bool} {only : List String} {d d₀ d₁ d₂ : δ} {o : Opened δ}
    {x : Except Failure Unit} (hsay : (say warnings).run d = (.ok (), d₀))
    (hopen : (openRun choices own noTest only).run d₀ = (.ok o, d₁))
    (hrun : (o.run noFlash noTest nightly choices.quiet).run d₁ = (x, d₂)) :
    (say warnings *> (Request.run noFlash noTest nightly only).perform choices own).run d =
      (x.map fun _ => "", d₂) := by
  rw [seqRight_eq_bind, bind_run, hsay]
  dsimp only [Request.perform]
  rw [bind_run, runTests_eq, bind_run, hopen]
  dsimp only
  rw [hrun]
  cases x <;> rfl

/-- Once the target is open, the exit status is decided by what becomes of the run: it is 0 if no moment
of it spoils it, 130 if it was stopped before a test, and else 1. What ends the run in the middle of a
test is an error of a reboot, and there is none in a test that is finished. The screen is one that can be
written (`Operator.print`). -/
theorem carryOutCall_status (hδ : FailsAsMachine δ) (noFlash nightly : Bool) {e : Environment}
    {choices : Choices} {noTest : Bool} {only : List String} {d d₁ : δ} {o : Opened δ}
    (hopened : (say (e.logFilter (Bench.libraries δ).regexes choices).2 *>
      openRun choices e.ownConfig? noTest only).run d = (.ok o, d₁)) :
    let out := carryOutCall e choices (.run noFlash noTest nightly only) d
    let plan := o.plan noFlash noTest nightly
    let w := screenWatcher choices.quiet
    let start := o.workplace.session (o.announced noFlash d₁)
    let run := Run.execute o.workplace.target plan w o.tests { session := start }
    ∃ opening ran closing,
      let moments := opening ++ (ran.flatMap Run.Moment.round ++ closing)
      Run.Accounts plan o.tests opening ran closing run.1 ∧
      Run.Course o.workplace.target w moments start run.2.session ∧
      (∀ reason, run.1 ≠ .error (.config reason) ∧ run.1 ≠ .error (.composition reason)) ∧
      (∀ t error, .broke t error ∈ moments → error.IsReboot) ∧
      (∀ t v s s', Run.Happens o.workplace.target w (.ran t v) s s' →
        ¬ Run.FailsToReboot o.workplace.target t s) ∧
      (Operator.stopRequests out.2 < 2 →
        (out.1.status = 0 ↔ ∀ m ∈ moments, ¬ m.Spoils) ∧
        (out.1.status = 130 ↔ .asked true ∈ moments) ∧
        (out.1.status = 0 ∨ out.1.status = 130 ∨ out.1.status = 1)) := by
  obtain ⟨d₀, hsay, hopen⟩ : ∃ d₀,
      (say (e.logFilter (Bench.libraries δ).regexes choices).2).run d = (.ok (), d₀) ∧
      (openRun choices e.ownConfig? noTest only).run d₀ = (.ok o, d₁) := by
    rw [seqRight_eq_bind] at hopened
    obtain ⟨_, d₀, hsay, hopen⟩ := bind_ok_iff.1 hopened
    exact ⟨d₀, hsay, hopen⟩
  obtain ⟨htarget, htests⟩ := openRun_standard hopen
  obtain ⟨vs, hvs⟩ := Run.exists_executes o.workplace.target (o.plan noFlash noTest nightly)
    (screenWatcher choices.quiet) o.tests { session := o.workplace.session (o.announced noFlash d₁) }
  obtain ⟨opening, ran, closing, haccounts, hcourse, -⟩ := hvs.exists_course
  have hstatus := haccounts.exitStatus_iff hδ htarget htests hcourse
  refine ⟨opening, ran, closing, haccounts, hcourse, fun reason => ?_, fun t error hmem => ?_,
    fun t v s s' h => h.not_failsToReboot, fun hstop => ?_⟩
  · constructor <;>
    · intro herror
      rw [herror] at haccounts
      obtain ⟨hnot, -⟩ | ⟨hplain, -⟩ := haccounts.escaping hδ htarget htests hcourse
      · cases hnot
      · cases hplain
  · exact haccounts.broke_isReboot hδ htarget htests hcourse hmem
  · obtain ⟨x, d₂, hrun, hx⟩ := o.run_status noFlash noTest nightly choices.quiet d₁
    rw [carryOutCall_status_of_run (perform_run hsay hopen hrun) hstop]
    have hmap : status (x.map fun _ => "") = status x := by cases x <;> rfl
    rw [hmap, hx]
    exact hstatus

end

/-! ## Configurations that are given -/

/-- A text is read character by character. -/
theorem read?_ofList (cs : List Char) : Toml.read? (String.ofList cs) =
    let cs := match cs with
      | '\uFEFF' :: rest => rest
      | cs => cs
    (Toml.readBody (cs.length + 1) [] (.emptyTable false false) cs).map Toml.Node.toJson := by
  unfold Toml.read?
  rewrite [String.toList_ofList]
  rfl

theorem ofText_ofList (cs : List Char) :
    Bytes.ofText (String.ofList cs) = cs.flatMap String.utf8EncodeChar := by
  unfold Bytes.ofText
  rw [String.toList_ofList]

theorem load_of_text {δ : Type} [Bench δ] [Files δ] {path text : String} {own : Option String}
    {config : Config} {d : δ} (hthere : Files.isThere path d = true)
    (hread : Files.readFile path d = .ok (Bytes.ofText text))
    (hdecode : Text.decode? (Bytes.ofText text) = some text)
    (hparse : ((Bench.libraries δ).readToml text).bind Config.ofJson? = some config) :
    Config.load (some path) own d = .ok config := by
  simp only [Config.load, Config.readFile, hthere, if_true, hread, hdecode, hparse]

/-- What comes after a configuration was loaded is done with that one. -/
theorem load_bind_run {δ α : Type} [Bench δ] [Files δ] {path own : Option String} {config : Config}
    {d : δ} (h : Config.load path own d = .ok config) (f : Config → Command δ α) :
    (get >>= fun d => ofExcept (Config.load path own d) >>= f : Command δ α).run d =
      (f config).run d := by
  rw [bind_run, get_run]
  dsimp only
  rw [h]
  rfl

/-! ## A run that is stopped -/

/-- The text of a configuration with one emulated board. -/
def stoppedText : String :=
  "targets.e.emulator.program=\"true\"\ntests=[\x7bname=\"t\",expect=[\"x\"],ignore=true\x7d]"

def stoppedConfig : Config where
  targets := [("e", {
    port := none
    baud := none
    emulator := some ⟨"true", [], none⟩
    shellPrompt := none
    bootupTimeout := none
    kernelLogOff := none
    kernelLogOn := none
    ramWindow := none
    flashImage := none
    fileServer := none })]
  tests := [{
    name := "t"
    command := none
    expect := ["x"]
    regex := false
    shell := true
    prompt := none
    timeout := none
    ignore := true
    suppressKernelLog := false
    targets := []
    apps := []
    bootloader := false }]

/-- A bench whose operator has asked to stop. -/
def stoppedBench : Sim.World :=
  { interrupts := 1
    files := { Sim.FileTree.empty with
      nodes := (["bench", "c"], .file (Bytes.ofText stoppedText) false) :: Sim.FileTree.empty.nodes } }

def stoppedChoices : Choices := { target := some "e", configFile := some "c" }

/-- A call without any variables set. -/
def bareEnvironment : Environment := ⟨[]⟩

theorem stoppedBench_load :
    Config.load stoppedChoices.configFile bareEnvironment.ownConfig? stoppedBench =
      .ok stoppedConfig := by
  refine @load_of_text _ _ _ _ stoppedText _ _ _ (by cbv) (by cbv) ?_ ?_
  · rw [stoppedText, ofText_ofList]
    decide +kernel
  · show (Toml.read? stoppedText).bind Config.ofJson? = _
    rw [stoppedText, read?_ofList]
    decide +kernel

theorem stoppedBench_say :
    (say (bareEnvironment.logFilter (Bench.libraries Sim.World).regexes stoppedChoices).2).run
      stoppedBench = (.ok (), stoppedBench) := rfl

theorem stoppedBench_opens :
    ∃ o d, (say (bareEnvironment.logFilter (Bench.libraries Sim.World).regexes stoppedChoices).2 *>
      openRun stoppedChoices bareEnvironment.ownConfig? false []).run stoppedBench = (.ok o, d) := by
  rw [seqRight_eq_bind, bind_run, stoppedBench_say]
  dsimp only
  refine exists_of_isOk ?_
  rw [openRun, load_bind_run stoppedBench_load]
  cbv

theorem stoppedBench_runs :
    ∃ f d, (runTests stoppedChoices bareEnvironment.ownConfig? false false false []).run stoppedBench =
      (.error f, d) ∧ f.exitCode = 130 ∧ d.interrupts = 1 := by
  have hends : (fun out : Except Failure Unit × Sim.World => (status out.1, out.2.interrupts))
      ((runTests stoppedChoices bareEnvironment.ownConfig? false false false []).run stoppedBench) =
        (130, 1) := by
    rw [runTests, load_bind_run stoppedBench_load]
    cbv
  rcases hrun : (runTests stoppedChoices bareEnvironment.ownConfig? false false false []).run
    stoppedBench with ⟨f | _, d⟩ <;> rw [hrun] at hends <;> obtain ⟨hf, hd⟩ := Prod.mk.inj hends
  · exact ⟨f, d, rfl, hf, hd⟩
  · cases hf

/-- A message of the program is no request to stop. -/
theorem interrupts_print (text : String) (w : Sim.World) :
    (Operator.print text w).interrupts = w.interrupts := by
  show (if w.person.blind then w else w.show (.text text)).interrupts = w.interrupts
  unfold Sim.World.show
  split
  · rfl
  · split <;> rfl

theorem stoppedBench_ends :
    let out := carryOutCall bareEnvironment stoppedChoices (.run false false false []) stoppedBench
    out.1.status = 130 ∧ Operator.stopRequests out.2 = 1 := by
  obtain ⟨f, d, hrun, hf, hd⟩ := stoppedBench_runs
  have hperform : (say (bareEnvironment.logFilter (Bench.libraries Sim.World).regexes stoppedChoices).2 *>
      (Request.run false false false []).perform stoppedChoices bareEnvironment.ownConfig?).run
        stoppedBench = (.error f, d) := by
    rw [seqRight_eq_bind, bind_run, stoppedBench_say]
    dsimp only [Request.perform]
    rw [bind_run, hrun]
  have hstop : Operator.stopRequests
      (carryOutCall bareEnvironment stoppedChoices (.run false false false []) stoppedBench).2 = 1 := by
    unfold carryOutCall
    simp only [hperform]
    exact (interrupts_print _ d).trans hd
  refine ⟨?_, hstop⟩
  rw [carryOutCall_status_of_run hperform (hstop ▸ Nat.one_lt_two)]
  exact hf

/-- The operator has asked to stop before the first test. -/
theorem carryOutCall_status_stopped :
    ∃ o d, (say (bareEnvironment.logFilter (Bench.libraries Sim.World).regexes stoppedChoices).2 *>
        openRun stoppedChoices bareEnvironment.ownConfig? false []).run stoppedBench = (.ok o, d) ∧
      let out := carryOutCall bareEnvironment stoppedChoices (.run false false false []) stoppedBench
      out.1.status = 130 ∧ Operator.stopRequests out.2 < 2 ∧
      ∃ opening ran closing,
        Run.Accounts (o.plan false false false) o.tests opening ran closing (.error .interrupted) ∧
        .asked true ∈ opening ++ (ran.flatMap Run.Moment.round ++ closing) := by
  obtain ⟨o, d, hopened⟩ := stoppedBench_opens
  obtain ⟨hstatus, hstop⟩ := stoppedBench_ends
  have htwice : Operator.stopRequests
      (carryOutCall bareEnvironment stoppedChoices (.run false false false []) stoppedBench).2 < 2 :=
    hstop ▸ Nat.one_lt_two
  obtain ⟨opening, ran, closing, haccounts, -, -, -, -, hexit⟩ :=
    carryOutCall_status Sim.World.failsAsMachine false false hopened
  have hasked := (hexit htwice).2.1.1 hstatus
  rw [(haccounts.error_iff .interrupted).2 ⟨_, hasked, rfl⟩] at haccounts
  exact ⟨o, d, hopened, hstatus, htwice, opening, ran, closing, haccounts, hasked⟩

end BoardBench.CommandLine
