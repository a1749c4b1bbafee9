import BoardBench.Proofs.Harness.Legs
import BoardBench.Proofs.Runner.Rebooting
import BoardBench.Sim.World
import Mathlib

/-!
# Tests that break off

A test breaks off if it ends before its last stage. A test that broke off did not pass
(`Stage.status_of_breaks`). If it failed, the next test that is run reboots the board. If it was
skipped, by its body, it only hands on what was decided for it, as if it had left the board as it found
it: the next test may then find the board with no prompt to come and the kernel still silenced
(`execute_reboots_after_break`).
-/

namespace BoardBench

namespace Stage

variable {δ : Type} [Bench δ] [Transport δ] {target : Target δ} {b : Body δ} {timeout : Span}

/-- The stages end before the last of them. -/
inductive Breaks (target : Target δ) (b : Body δ) (timeout : Span) : List Stage → Trial δ → Prop
  | here {stage rest t} : rest ≠ [] → (stage.run target b timeout t).1 ≠ .ok true →
      Breaks target b timeout (stage :: rest) t
  | later {stage rest t t'} : stage.run target b timeout t = (.ok true, t') →
      Breaks target b timeout rest t' → Breaks target b timeout (stage :: rest) t

/-- A test stops without an error only at its body, which then has not passed. -/
theorem status_of_run_false {stage : Stage} {t t' : Trial δ}
    (h : stage.run target b timeout t = (.ok false, t')) : t'.verdict.status ≠ .ok := by
  by_cases hbody : stage = .body
  · subst hbody
    exact status_of_runBody_false h
  · obtain ⟨x, hx, hgoesOn⟩ := run_eq_onSession target b timeout hbody
    rw [hx] at h
    obtain ⟨s, hs, -⟩ := Act.zoom_eq_iff.1 h
    exact absurd hs (hgoesOn _ _)

/-- Stages that end before the last of them leave no passed test, if they leave a verdict at all. -/
theorem status_of_breaks {stages : List Stage} {t t' : Trial δ} (h : Breaks target b timeout stages t)
    (hrun : runAll target b timeout stages t = (.ok (), t')) : t'.verdict.status ≠ .ok := by
  induction h with
  | @here stage rest t _ hstop =>
    rcases hstage : stage.run target b timeout t with ⟨e | _ | _, u⟩ <;> rw [hstage] at hstop <;>
      simp only [runAll, hstage] at hrun
    · by_cases hfatal : e.isFatal = true
      · rw [if_pos hfatal] at hrun
        cases hrun
      · rw [if_neg hfatal] at hrun
        obtain ⟨-, rfl⟩ := Prod.mk.inj hrun
        intro hok
        cases hok
    · obtain ⟨-, rfl⟩ := Prod.mk.inj hrun
      exact status_of_run_false hstage
    · exact absurd rfl hstop
  | later hstage _ ih =>
    simp only [runAll, hstage] at hrun
    exact ih hrun

end Stage

namespace Run

variable {δ : Type} [Bench δ] [Transport δ]

/-- The test was run and ended before its last stage. -/
def Visit.Breaks (target : Target δ) (v : Visit δ) : Prop :=
  ∃ stages, v.test.ignore = false ∧ v.test.stages target = .ok stages ∧
    Stage.Breaks target v.test.body v.test.timeout stages ⟨v.start, {}⟩

theorem Visit.Breaks.status? {target : Target δ} {v : Visit δ} (h : v.Breaks target)
    (hv : runOne target v.test v.start = (v.result, v.finish)) : v.status? ≠ some .ok := by
  obtain ⟨stages, hignore, hstages, hbreaks⟩ := h
  unfold runOne at hv
  rw [if_neg (by rw [hignore]; exact Bool.false_ne_true), hstages] at hv
  rcases hrun : Stage.runAll target v.test.body v.test.timeout stages ⟨v.start, {}⟩ with ⟨e | _, t⟩ <;>
    simp only [Stage.drive, hrun] at hv <;> obtain ⟨hresult, -⟩ := Prod.mk.inj hv <;>
    unfold Visit.status? <;> rw [← hresult]
  · intro hok
    cases hok
  · intro hok
    exact Stage.status_of_breaks hbreaks hrun (Option.some.inj hok)

omit [Bench δ] [Transport δ] in
/-- A test whose stages are run begins with a reboot exactly if it is to reboot. -/
theorem begins_with_reboot_iff {target : Target δ} {t : Test δ} (h : t.isRun target = true) :
    (∃ rest, t.stages target = .ok (.reboot .soft :: rest)) ↔ t.shouldReboot = true := by
  rcases hstages : t.stages target with e | stages
  · unfold Test.isRun at h
    rw [hstages] at h
    exact absurd h (by simp [Except.isOk, Except.toBool])
  obtain ⟨rest, rfl, -, hrest⟩ := Test.stages_eq hstages
  constructor
  · rintro ⟨rest', hrest'⟩
    by_cases hflag : t.shouldReboot = true
    · exact hflag
    · rw [if_neg hflag, List.nil_append] at hrest'
      exact absurd (Except.ok.inj hrest' ▸ List.mem_cons_self) (hrest .soft)
  · intro hflag
    rw [if_pos hflag]
    exact ⟨rest, rfl⟩

/-- After a test that did not pass the next that is run is to reboot, unless the first was skipped and
was not to reboot itself, and those between the two are all ignored. -/
theorem Visits.reboots_iff {target : Target δ} {nightly : Bool} {w : Watcher δ} {tests : List (Test δ)}
    {summary : Summary} {r : Run δ} {vs : List (Visit δ)} {o : Except Error Summary × Run δ}
    (h : Visits target nightly w tests summary r vs o) {i k : Nat} {u v : Visit δ} (hik : i < k)
    (hu : vs[i]? = some u) (hv : vs[k]? = some v) (hnotOk : u.status? ≠ some .ok)
    (hbetween : ∀ (j : Nat) (x : Visit δ), i < j → j < k → vs[j]? = some x →
      x.test.isRun target = false) :
    v.test.shouldReboot = true ↔ ¬ (u.status? = some .skip ∧ u.test.shouldReboot = false ∧
      ∀ (j : Nat) (x : Visit δ), i < j → j < k → vs[j]? = some x → x.test.ignore = true) := by
  -- what became of a test between the two
  have between {j : Nat} {x : Visit δ} (hij : i < j) (hjk : j < k) (hx : vs[j]? = some x) :
      x.status? = some (if x.test.ignore then .skip else .fail) :=
    Visit.status?_of_not_isRun (h.runOne_eq x (List.mem_of_getElem? hx)) (hbetween j x hij hjk hx)
  have due {j : Nat} {x : Visit δ} (hij : i ≤ j) (hjk : j < k) (hx : vs[j]? = some x)
      (hdue : x.status? = some .fail ∨ x.test.shouldReboot = true ∧ x.status? ≠ some .ok) :
      v.test.shouldReboot = true := by
    refine h.reboot_due hx hdue hjk hv fun l y hjl hlk hy => ?_
    exact Visit.status?_ne_ok_of_not_isRun (h.runOne_eq y (List.mem_of_getElem? hy))
      (hbetween l y (Nat.lt_of_le_of_lt hij hjl) hlk hy)
  constructor
  · rintro hflag ⟨hskip, hnot, hignored⟩
    -- with nothing but skipped tests in between, what was decided for the first is handed on
    have hsame := h.inherits_all (Nat.le_of_lt hik) hu hv fun j hij hjk => ?_
    · rw [hflag, hnot] at hsame
      cases hsame
    by_cases hji : j = i
    · exact ⟨u, hji ▸ hu, hskip⟩
    have hlt : i < j := by omega
    obtain ⟨x, status, hx, -⟩ := h.exists_status hjk hv
    have hstatus := between hlt hjk hx
    rw [if_pos (hignored j x hlt hjk hx)] at hstatus
    exact ⟨x, hx, hstatus⟩
  · intro hcase
    obtain ⟨u', status, hu', hstatus⟩ := h.exists_status hik hv
    obtain rfl := Option.some.inj (hu.symm.trans hu')
    cases status with
    | ok => exact absurd hstatus hnotOk
    | fail => exact due (Nat.le_refl i) hik hu (.inl hstatus)
    | skip =>
      by_cases hflag : u.test.shouldReboot = true
      · exact due (Nat.le_refl i) hik hu (.inr ⟨hflag, hnotOk⟩)
      -- then one in between is not ignored: its stages do not fit together, and it fails
      have hsome : ¬ ∀ (j : Nat) (x : Visit δ), i < j → j < k → vs[j]? = some x →
          x.test.ignore = true :=
        fun hall => hcase ⟨hstatus, Bool.eq_false_iff.2 hflag, hall⟩
      simp only [Classical.not_forall] at hsome
      obtain ⟨j, x, hij, hjk, hx, hignore⟩ := hsome
      have hfail := between hij hjk hx
      rw [if_neg hignore] at hfail
      exact due (Nat.le_of_lt hij) hjk hx (.inl hfail)

/-- The next test that is run after one that broke off begins with a reboot, unless the one that broke
off was skipped and was not to reboot itself, and those between the two are all ignored. -/
theorem execute_reboots_after_break (target : Target δ) (plan : RunPlan) (w : Watcher δ)
    (tests : List (Test δ)) (r : Run δ) :
    ∃ vs, Executes target plan w tests r vs (execute target plan w tests r) ∧
      ∀ (i k : Nat) (u v : Visit δ), i < k → vs[i]? = some u → vs[k]? = some v →
        u.Breaks target → v.test.isRun target = true →
        (∀ (j : Nat) (x : Visit δ), i < j → j < k → vs[j]? = some x → x.test.isRun target = false) →
        ((∃ rest, v.test.stages target = .ok (.reboot .soft :: rest)) ↔
          ¬ (u.status? = some .skip ∧ u.test.shouldReboot = false ∧
            ∀ (j : Nat) (x : Visit δ), i < j → j < k → vs[j]? = some x → x.test.ignore = true)) := by
  obtain ⟨vs, hvs⟩ := exists_executes target plan w tests r
  refine ⟨vs, hvs, fun i k u v hik hu hv hbreaks hrun hbetween => ?_⟩
  rcases hvs.of_visits with rfl | ⟨r₁, o, h⟩
  · cases hu
  have hnotOk := hbreaks.status? (h.runOne_eq u (List.mem_of_getElem? hu))
  rw [begins_with_reboot_iff hrun]
  exact h.reboots_iff hik hu hv hnotOk hbetween

/-- A board at its shell, whose kernel can be silenced. -/
def shellBench : Sim.World :=
  { board := {
      incoming := [.data (Bytes.ofText "(psh)% ")]
      rules := [{
        trigger := Bytes.ofText "klog off\r"
        reply := [⟨.data (Bytes.ofText "klog off\r\n(psh)% "), .zero⟩]
        repeats := false }] } }

def shellTarget : Target Sim.World where
  config := {
    name := "board"
    console := .serial { port := "tty0", baud := 115200 }
    kernelLogOff := some "klog off"
    kernelLogOn := some "klog on" }
  rebooter := { name := "none", reboot := fun _ => return () }

/-- A test that finds in its body that it does not apply. -/
def skippingTest : Test Sim.World where
  name := "skipping"
  shouldReboot := false
  shell := some {}
  body := { run := fun _ => Trial.judge fun _ => .skipped "not here" }
  suppressKernelLog := true

/-- A test that waits for the shell. -/
def waitingTest : Test Sim.World where
  name := "waiting"
  shell := some {}
  body := { run := fun _ => return () }

def idleWatcher : Watcher Sim.World where
  tell _ w := w
  interrupted w := (false, w)

def shellRun : Run Sim.World := { session := .ofDevice shellBench }

theorem skippingTest_breaks : Stage.Breaks shellTarget skippingTest.body skippingTest.timeout
    [.shell "(psh)% " (.ofSeconds 90) true, .kernelLog "klog off" "(psh)% " false, .body,
      .closingPrompt "(psh)% ", .kernelLog "klog on" "(psh)% " true] ⟨shellRun.session, {}⟩ := by
  refine .later (Prod.ext ?_ rfl) (.later (Prod.ext ?_ rfl) (.here (List.cons_ne_nil _ _) ?_))
  · cbv
  · cbv
  · cbv
    intro hok
    cases hok

theorem skippingTest_runOne :
    (runOne shellTarget skippingTest shellRun.session).1 = .ok (.skipped "not here") := by
  cbv

/-- The run comes to both tests. -/
theorem skippingTest_visits {vs : List (Visit Sim.World)} {o : Except Error Summary × Run Sim.World}
    (h : Visits shellTarget false idleWatcher [skippingTest, waitingTest] {} shellRun vs o) :
    ∃ u v, vs[0]? = some u ∧ vs[1]? = some v ∧ u.test = skippingTest ∧ u.start = shellRun.session ∧
      (u.result, u.finish) = runOne shellTarget skippingTest shellRun.session := by
  cases h with
  | stopped hbegin => cases hbegin
  | broken hbegin hone =>
    cases hbegin
    cases skippingTest_runOne.symm.trans (congrArg Prod.fst hone)
  | passed hbegin hone hrest =>
    cases hbegin
    cases hrest with
    | stopped hbegin => cases hbegin
    | broken hbegin _ => exact ⟨_, _, rfl, rfl, rfl, rfl, hone.symm⟩
    | passed hbegin _ _ => exact ⟨_, _, rfl, rfl, rfl, rfl, hone.symm⟩

/-- The test that finds in its body that it does not apply leaves the kernel silenced, and the next does
not reboot the board. -/
theorem execute_reboots_after_break_skipping :
    ∃ vs u v, Executes shellTarget { flash := false } idleWatcher [skippingTest, waitingTest] shellRun vs
        (execute shellTarget { flash := false } idleWatcher [skippingTest, waitingTest] shellRun) ∧
      vs[0]? = some u ∧ vs[1]? = some v ∧ u.Breaks shellTarget ∧ v.test.isRun shellTarget = true ∧
      u.finish.device.board.tally.written = Bytes.ofText "\rklog off\r" ∧
      ¬ ∃ rest, v.test.stages shellTarget = .ok (.reboot .soft :: rest) := by
  obtain ⟨vs, hvs, hreboots⟩ := execute_reboots_after_break shellTarget { flash := false } idleWatcher
    [skippingTest, waitingTest] shellRun
  obtain ⟨o, h⟩ : ∃ o, Visits shellTarget false idleWatcher [skippingTest, waitingTest] {} shellRun vs
      o := by
    generalize execute shellTarget { flash := false } idleWatcher _ shellRun = out at hvs
    cases hvs with
    | unprepared hprepare => cases hprepare
    | untested _ htest => cases htest
    | tested hprepare _ h =>
      cases hprepare
      exact ⟨_, h⟩
  obtain ⟨u, v, hu, hv, htest, hstart, hone⟩ := skippingTest_visits h
  have hbreaks : u.Breaks shellTarget := by
    unfold Visit.Breaks
    rw [htest, hstart]
    exact ⟨_, rfl, rfl, skippingTest_breaks⟩
  have hskip : u.status? = some .skip := by
    have hresult := (congrArg Prod.fst hone).trans skippingTest_runOne
    unfold Visit.status?
    rw [show u.result = _ from hresult]
    rfl
  have hrun : v.test.isRun shellTarget = true := by
    obtain ⟨t, ht, hflag⟩ := h.getElem?_test hv
    obtain rfl := Option.some.inj ht
    rw [hflag]
    cases v.test.shouldReboot <;> rfl
  refine ⟨vs, u, v, hvs, hu, hv, hbreaks, hrun, ?_, fun hreboot => ?_⟩
  · rw [show u.finish = _ from congrArg Prod.snd hone]
    cbv
  · refine (hreboots 0 1 u v Nat.zero_lt_one hu hv hbreaks hrun ?_).1 hreboot ⟨hskip, ?_, ?_⟩
    · intro j x h0 h1
      omega
    · rw [htest]
      rfl
    · intro j x h0 h1
      omega

end Run
end BoardBench
