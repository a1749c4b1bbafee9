import BoardBench.Proofs.Runner.History
import BoardBench.Proofs.Runner.Tracking

/-!
# Which tests reboot the board

The history of a run says for each test whether it was to reboot first, and the tracked run of the test
whether it did. Together they say which tests of a run reboot the board, and that each does it at most
once and before all else (`execute_reboots`).
-/

namespace BoardBench.Run

variable {δ : Type} [Bench δ] [Transport δ]

/-- A test whose stages are not run did not pass. -/
theorem Visit.status?_of_not_isRun {target : Target δ} {v : Visit δ}
    (hv : runOne target v.test v.start = (v.result, v.finish)) (h : v.test.isRun target = false) :
    v.status? = some (if v.test.ignore then .skip else .fail) := by
  unfold Visit.status?
  unfold runOne at hv
  by_cases hignore : v.test.ignore = true
  · rw [if_pos hignore] at hv
    have hresult : .ok (Verdict.skipped "ignored") = v.result := congrArg Prod.fst hv
    rw [if_pos hignore, ← hresult]
    rfl
  · rw [if_neg hignore] at hv ⊢
    rcases hstages : v.test.stages target with e | stages
    · rw [hstages] at hv
      have hresult : .ok (Verdict.failed none e.message) = v.result := congrArg Prod.fst hv
      rw [← hresult]
      rfl
    · unfold Test.isRun at h
      rw [hstages, Bool.eq_false_iff.2 hignore] at h
      cases h

theorem Visit.status?_ne_ok_of_not_isRun {target : Target δ} {v : Visit δ}
    (hv : runOne target v.test v.start = (v.result, v.finish)) (h : v.test.isRun target = false) :
    v.status? ≠ some .ok := by
  intro hok
  have hstatus := Visit.status?_of_not_isRun hv h
  rw [hok] at hstatus
  split at hstatus <;> cases hstatus

/-- Which tests of a run reboot the board: what is decided for a test follows from the outcomes before
it, and a test of which it is decided asks for one reboot, before it does anything else, if its stages
are run at all; the others ask for none. So after a failure the next test that is run reboots, however
many are skipped between the two, and in nightly mode all do if the first does. -/
theorem execute_reboots (target : Target δ) (plan : RunPlan) (w : Watcher δ) (tests : List (Test δ))
    (r : Run δ) :
    ∃ vs, Executes target plan w tests r vs (execute target plan w tests r) ∧
      (∀ (i : Nat) (v : Visit δ), vs[i]? = some v →
        (∃ t, tests[i]? = some t ∧ v.test = { t with shouldReboot := v.test.shouldReboot }) ∧
        Scheduled plan.nightly tests vs i v.test.shouldReboot ∧
        runOne target v.test v.start = (v.result, v.finish) ∧
        ∃ s, runOne target.tracked v.test.tracked v.start.tracked = (v.result, s) ∧
          s.untracked = v.finish ∧
          s.device.calls =
            if v.test.asksReboot target then [(.soft, target.announced v.start)] else []) ∧
      (∀ (i k : Nat) (u v : Visit δ), i < k → vs[i]? = some u → vs[k]? = some v →
        u.status? = some .fail →
        (∀ (j : Nat) (x : Visit δ), i < j → j < k → vs[j]? = some x →
          x.test.isRun target = true → x.status? = some .skip) →
        v.test.asksReboot target = v.test.isRun target) ∧
      (plan.nightly = true → tests[0]?.any (·.shouldReboot) = true →
        ∀ v ∈ vs, v.test.asksReboot target = v.test.isRun target) := by
  obtain ⟨vs, hvs⟩ := exists_executes target plan w tests r
  refine ⟨vs, hvs, ?_⟩
  have asks {v : Visit δ} (h : v.test.shouldReboot = true) :
      v.test.asksReboot target = v.test.isRun target := by
    rw [Test.asksReboot, h, Bool.and_true]
  rcases hvs.of_visits with rfl | ⟨r₁, o, h⟩
  · refine ⟨fun i v hv => ?_, fun i k u v _ hu => ?_, fun _ _ v hv => absurd hv List.not_mem_nil⟩
    · cases hv
    · cases hu
  refine ⟨fun i v hv => ?_, fun i k u v hik hu hv hfail hbetween => ?_, fun hnightly hfirst v hv => ?_⟩
  · have hone := h.runOne_eq v (List.mem_of_getElem? hv)
    obtain ⟨hval, hsession, hcalls⟩ := runOne_tracked target v.test v.start
    rw [hone] at hval hsession
    exact ⟨h.getElem?_test hv, h.scheduled hv, hone, _, Prod.ext hval.symm rfl, hsession.symm, hcalls⟩
  · refine asks (h.reboot_due hu (.inl hfail) hik hv fun j x hij hjk hx hok => ?_)
    -- a test between the two that was run was skipped, and one that was not run did not pass
    cases hrun : x.test.isRun target with
    | true => cases hok.symm.trans (hbetween j x hij hjk hx hrun)
    | false =>
      exact Visit.status?_ne_ok_of_not_isRun (h.runOne_eq x (List.mem_of_getElem? hx)) hrun hok
  · obtain ⟨i, hi⟩ := List.mem_iff_getElem?.1 hv
    rw [hnightly] at h
    exact asks (h.reboots_nightly hfirst hi)

end BoardBench.Run
