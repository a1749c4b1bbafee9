import BoardBench.Proofs.Reboot.Steps
import BoardBench.Proofs.Runner.Accounting
import BoardBench.Proofs.Runner.Interruption

/-!
# Reboots that fail

A test that breaks a run off is its last one, and after any other the next is run if the run is not
stopped (`Visits.ends_run`, `Visits.goes_on`). A test whose reboot fails breaks the run off exactly if
the error is fatal, and whether it is depends on the step of the reboot that failed: it is if the step
is guarded, else it is what the transport or the system raised
(`execute_after_failed_reboot`).
-/

namespace BoardBench.Run

open Strategy

variable {δ : Type} [Bench δ] [Transport δ]

/-! ## After a test -/

section history

variable {target : Target δ} {plan : RunPlan} {w : Watcher δ} {tests : List (Test δ)} {r : Run δ}
  {vs : List (Visit δ)} {o : Except Error Summary × Run δ} {i : Nat} {v : Visit δ}

/-- A test that breaks the run off is the last that is run, and the run ends with its error. -/
theorem Visits.ends_run {nightly : Bool} {summary : Summary} {e : Error}
    (h : Visits target nightly w tests summary r vs o) (hv : vs[i]? = some v)
    (hresult : v.result = .error e) : o.1 = .error e ∧ i + 1 = vs.length := by
  induction h generalizing i with
  | done => cases hv
  | stopped _ => cases hv
  | broken _ _ =>
    cases i with
    | zero =>
      cases hv
      cases hresult
      exact ⟨rfl, rfl⟩
    | succ i => cases hv
  | passed _ _ _ ih =>
    cases i with
    | zero =>
      cases hv
      cases hresult
    | succ i =>
      obtain ⟨hend, hlen⟩ := ih hv
      exact ⟨hend, congrArg (· + 1) hlen⟩

/-- After a test with a verdict the next is run, unless the run is stopped before it. -/
theorem Visits.goes_on {nightly : Bool} {summary : Summary} {verdict : Verdict}
    (h : Visits target nightly w tests summary r vs o) (hv : vs[i]? = some v)
    (hresult : v.result = .ok verdict) (hi : i + 1 < tests.length) :
    (∃ u, vs[i + 1]? = some u) ∨ o.1 = .error .interrupted := by
  induction h generalizing i with
  | done => cases hv
  | stopped _ => cases hv
  | broken _ _ =>
    cases i with
    | zero =>
      cases hv
      cases hresult
    | succ i => cases hv
  | @passed t rest _ _ _ _ _ _ _ _ _ hrest ih =>
    cases i with
    | succ i =>
      refine ih hv ?_
      rw [length_reschedule]
      exact Nat.lt_of_succ_lt_succ hi
    | zero =>
      cases rest with
      | nil => exact absurd hi (Nat.lt_irrefl 1)
      | cons u rest =>
        cases hrest with
        | stopped hbegin =>
          obtain ⟨_, -, rfl, -⟩ := begin_eq_error hbegin
          exact .inr rfl
        | broken _ _ => exact .inl ⟨_, rfl⟩
        | passed _ _ _ => exact .inl ⟨_, rfl⟩

omit [Bench δ] [Transport δ] in
theorem conclude_fst (w : Watcher δ) (o : Except Error Summary × Run δ) : (conclude w o).1 = o.1 := by
  obtain ⟨e | summary, r⟩ := o <;> rfl

/-- A test that was run was run as one of the tests of the run. -/
theorem Executes.exists_visits (h : Executes target plan w tests r vs o) (hv : vs[i]? = some v) :
    ∃ r₁ o', Visits target plan.nightly w tests {} r₁ vs o' ∧ o.1 = o'.1 := by
  cases h with
  | unprepared _ => cases hv
  | untested _ _ => cases hv
  | tested _ _ hvs => exact ⟨_, _, hvs, conclude_fst w _⟩

end history

/-! ## A reboot that fails -/

/-- What becomes of a test whose reboot fails. -/
theorem runOne_of_failed_reboot {target : Target δ} {t : Test δ} {s s' : Session δ} {e : Error}
    (hasks : t.asksReboot target = true) (h : target.reboot .soft s = (.error e, s')) :
    runOne target t s = if e.isFatal then (.error e, s')
      else (.ok (Verdict.fail .flash e.message {}),
        (Session.note .info ("Stage reboot failed: " ++ e.message) s').2) := by
  obtain ⟨hrun, hflag⟩ := Bool.and_eq_true_iff.1 hasks
  obtain ⟨rest, hstages⟩ := (begins_with_reboot_iff hrun).2 hflag
  have hignore : t.ignore = false := (Bool.not_eq_true' _).mp (Bool.and_eq_true_iff.1 hrun).1
  have hstage : (Stage.reboot .soft).run target t.body t.timeout ⟨s, {}⟩ = (.error e, ⟨s', {}⟩) := by
    rw [Stage.run_reboot, h]
    rfl
  unfold runOne
  rw [if_neg (Bool.eq_false_iff.1 hignore), hstages]
  by_cases hfatal : e.isFatal = true
  · rw [if_pos hfatal]
    simp only [Stage.drive, Stage.runAll, hstage, if_pos hfatal]
    rfl
  · rw [if_neg hfatal]
    simp only [Stage.drive, Stage.runAll, hstage, if_neg hfatal]
    rfl

variable [Processes δ] [Files δ] [Operator δ]

/-- A reboot fails with the error of the first of its steps that fails. If the step is guarded that is an
error of the reboot; of the others it is what the transport or the system raised, and is not made one.
A test whose reboot fails with a fatal error is the last of its run, which ends with that error. One
whose reboot fails with another error fails while the board is being prepared, and the run goes on: the
next test is run, unless the run is stopped before it. -/
theorem execute_after_failed_reboot (strategy : Strategy δ) :
    (∀ options s s' e, strategy.rebooter.reboot options s = (.error e, s') ↔
      ∃ step, Step.FailsAt (strategy.steps options) s step e s') ∧
    (∀ options s s' step e, Step.FailsAt (strategy.steps options) s step e s' →
      if step.guarded then ∃ reason, e = .reboot reason else Transport.Raises δ e) ∧
    ∀ (bare : Target δ) (plan : RunPlan) (w : Watcher δ) (tests : List (Test δ)) (r : Run δ),
      let target := { bare with rebooter := strategy.rebooter }
      let out := execute target plan w tests r
      ∃ vs, Executes target plan w tests r vs out ∧
        ∀ (i : Nat) (v : Visit δ), vs[i]? = some v → v.test.asksReboot target = true →
          ∀ step e s, Step.FailsAt (strategy.steps .soft) (target.announced v.start) step e s →
            if e.isFatal then
              v.result = .error e ∧ v.finish = s ∧ out.1 = .error e ∧ i + 1 = vs.length
            else
              v.result = .ok (Verdict.fail .flash e.message {}) ∧
                (i + 1 < tests.length → (∃ u, vs[i + 1]? = some u) ∨ out.1 = .error .interrupted) := by
  refine ⟨fun options s s' e => ?_, fun options s s' step e h => h.raises, ?_⟩
  · rw [reboot_eq]
    exact Step.runAll_eq_error_iff
  intro bare plan w tests r target out
  obtain ⟨vs, hvs⟩ := exists_executes target plan w tests r
  refine ⟨vs, hvs, fun i v hv hasks step e s hstep => ?_⟩
  obtain ⟨r₁, o, hvisits, hout⟩ := hvs.exists_visits hv
  have hreboot : target.reboot .soft v.start = (.error e, s) := by
    have hfail : strategy.rebooter.reboot .soft (target.announced v.start) = (.error e, s) := by
      rw [reboot_eq]
      exact Step.runAll_eq_error_iff.2 ⟨step, hstep⟩
    exact hfail
  have hone := hvisits.runOne_eq v (List.mem_of_getElem? hv)
  rw [runOne_of_failed_reboot hasks hreboot] at hone
  by_cases hfatal : e.isFatal = true
  · rw [if_pos hfatal] at hone ⊢
    obtain ⟨hresult, hfinish⟩ := Prod.mk.inj hone
    obtain ⟨hend, hlen⟩ := hvisits.ends_run hv hresult.symm
    exact ⟨hresult.symm, hfinish.symm, hout.trans hend, hlen⟩
  · rw [if_neg hfatal] at hone ⊢
    obtain ⟨hresult, -⟩ := Prod.mk.inj hone
    refine ⟨hresult.symm, fun hi => ?_⟩
    rw [hout]
    exact hvisits.goes_on hv hresult.symm hi

/-- Both tests on an emulator that cannot be started again are run, and fail. -/
example :
    let target : Target Sim.World :=
      { config := { name := "emu", console := .process { program := "emu" } }
        rebooter := byRestart.rebooter }
    let tests : List (Test Sim.World) := ["first", "second"].map fun name =>
      { name, body := .expecting none [] }
    (execute target { flash := false } (.logging fun w => (false, w)) tests
      { session := .ofDevice { board := { canReopen := false } } }).1 = .ok ⟨0, 2, 0⟩ := by
  decide +kernel

end BoardBench.Run
