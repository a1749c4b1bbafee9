import BoardBench.Runner

/-!
# The history of a run

`Visits` tells a run of tests as the list of the tests that were run, each with the session it began
on and what came of it. From the history it can be read off which test reboots the board first: what
was decided for the first test holds until a test passes or fails, and then what that test left to the
next holds until the next one does (`Visits.scheduled`).
-/

namespace BoardBench

namespace Run

variable {δ : Type}

/-- A test as it was run. -/
structure Visit (δ : Type) where
  test : Test δ
  start : Session δ
  result : Except Error Verdict
  finish : Session δ

/-- What became of the test, if it did not end the run. -/
def Visit.status? (v : Visit δ) : Option Status :=
  match v.result with
  | .ok verdict => some verdict.status
  | .error _ => none

/-- The test at this place was run and skipped. -/
def SkippedAt (vs : List (Visit δ)) (i : Nat) : Prop := ∃ v, vs[i]? = some v ∧ v.status? = some .skip

/-- What is done before a test is run. -/
def begin (w : Watcher δ) (t : Test δ) : Act (Run δ) Unit := do
  Act.change fun r => { r with reboots := r.reboots ++ [t.shouldReboot] }
  checkInterrupt w
  report w (.started t.name)

theorem report_apply (w : Watcher δ) (what : Report) (r : Run δ) :
    report w what r = (.ok (), { r with
      reports := r.reports ++ [what]
      session := { r.session with device := w.tell what r.session.device } }) := rfl

/-- Rescheduling changes nothing but whether the first test reboots. -/
theorem getElem?_reschedule {current : Bool} {status : Status} {nightly : Bool}
    {tests : List (Test δ)} {i : Nat} {t : Test δ}
    (h : (reschedule current status nightly tests)[i]? = some t) :
    ∃ u, tests[i]? = some u ∧ t = { u with shouldReboot := t.shouldReboot } := by
  cases tests with
  | nil => cases h
  | cons u rest =>
    cases i with
    | zero =>
      cases h
      exact ⟨u, rfl, rfl⟩
    | succ i => exact ⟨t, h, rfl⟩

variable [Bench δ] [Transport δ]

theorem runTests_cons (target : Target δ) (nightly : Bool) (w : Watcher δ) (t : Test δ)
    (rest : List (Test δ)) (summary : Summary) :
    runTests target nightly w (t :: rest) summary = (do
      begin w t
      let v ← onSession (runOne target t)
      report w (.finished t.name v)
      runTests target nightly w (reschedule t.shouldReboot v.status nightly rest)
        (summary.record v.status)) := by
  rw [runTests, begin]
  simp only [Act.bind_assoc]

/-- A run of tests with the tests that it came to. -/
inductive Visits (target : Target δ) (nightly : Bool) (w : Watcher δ) :
    List (Test δ) → Summary → Run δ → List (Visit δ) → Except Error Summary × Run δ → Prop
  | done {summary r} : Visits target nightly w [] summary r [] (.ok summary, r)
  | stopped {t rest summary r e r'} : begin w t r = (.error e, r') →
      Visits target nightly w (t :: rest) summary r [] (.error e, r')
  | broken {t rest summary r r₁ e s} : begin w t r = (.ok (), r₁) →
      runOne target t r₁.session = (.error e, s) →
      Visits target nightly w (t :: rest) summary r [⟨t, r₁.session, .error e, s⟩]
        (.error e, { r₁ with session := s })
  | passed {t rest summary r r₁ v s vs o} : begin w t r = (.ok (), r₁) →
      runOne target t r₁.session = (.ok v, s) →
      Visits target nightly w (reschedule t.shouldReboot v.status nightly rest)
        (summary.record v.status) (report w (.finished t.name v) { r₁ with session := s }).2 vs o →
      Visits target nightly w (t :: rest) summary r (⟨t, r₁.session, .ok v, s⟩ :: vs) o

/-- Every run of tests has a history. -/
theorem exists_visits (target : Target δ) (nightly : Bool) (w : Watcher δ) (tests : List (Test δ))
    (summary : Summary) (r : Run δ) :
    ∃ vs, Visits target nightly w tests summary r vs (runTests target nightly w tests summary r) := by
  induction hlen : tests.length generalizing tests summary r with
  | zero =>
    obtain rfl := List.length_eq_zero_iff.1 hlen
    rw [runTests]
    exact ⟨[], .done⟩
  | succ n ih =>
    obtain ⟨t, rest, rfl⟩ := List.exists_cons_of_length_eq_add_one hlen
    rw [runTests_cons]
    rcases hbegin : begin w t r with ⟨e | _, r₁⟩
    · rw [Act.bind_error hbegin]
      exact ⟨[], .stopped hbegin⟩
    rw [Act.bind_ok hbegin]
    rcases hone : runOne target t r₁.session with ⟨e | v, s⟩
    · have hsession : onSession (runOne target t) r₁ = (.error e, { r₁ with session := s }) :=
        Act.zoom_eq_iff.2 ⟨s, hone, rfl⟩
      rw [Act.bind_error hsession]
      exact ⟨_, .broken hbegin hone⟩
    · have hsession : onSession (runOne target t) r₁ = (.ok v, { r₁ with session := s }) :=
        Act.zoom_eq_iff.2 ⟨s, hone, rfl⟩
      rw [Act.bind_ok hsession, Act.bind_ok (report_apply _ _ _)]
      obtain ⟨vs, hvs⟩ := ih (reschedule t.shouldReboot v.status nightly rest)
        (summary.record v.status) (report w (.finished t.name v) { r₁ with session := s }).2
        (by rw [length_reschedule]; exact Nat.succ.inj hlen)
      exact ⟨_, .passed hbegin hone hvs⟩

namespace Visits

variable {target : Target δ} {nightly : Bool} {w : Watcher δ} {tests : List (Test δ)}
  {summary : Summary} {r : Run δ} {vs : List (Visit δ)} {o : Except Error Summary × Run δ}

/-- A visit is a run of its test. -/
theorem runOne_eq (h : Visits target nightly w tests summary r vs o) :
    ∀ v ∈ vs, runOne target v.test v.start = (v.result, v.finish) := by
  induction h with
  | done =>
    intro v hv
    exact absurd hv List.not_mem_nil
  | stopped _ =>
    intro v hv
    exact absurd hv List.not_mem_nil
  | broken _ hone =>
    intro v hv
    obtain rfl := List.mem_singleton.1 hv
    exact hone
  | passed _ hone _ ih =>
    intro v hv
    rcases List.mem_cons.1 hv with rfl | hv
    · exact hone
    · exact ih v hv

/-- The tests are run in order, and a run changes nothing of them but whether they reboot first. -/
theorem getElem?_test (h : Visits target nightly w tests summary r vs o) {i : Nat} {v : Visit δ}
    (hv : vs[i]? = some v) :
    ∃ t, tests[i]? = some t ∧ v.test = { t with shouldReboot := v.test.shouldReboot } := by
  induction h generalizing i with
  | done => cases hv
  | stopped _ => cases hv
  | broken _ _ =>
    cases i with
    | zero =>
      cases hv
      exact ⟨_, rfl, rfl⟩
    | succ i => cases hv
  | passed _ _ _ ih =>
    cases i with
    | zero =>
      cases hv
      exact ⟨_, rfl, rfl⟩
    | succ i =>
      obtain ⟨t, ht, hflag⟩ := ih hv
      obtain ⟨u, hu, hflag'⟩ := getElem?_reschedule ht
      exact ⟨u, hu, by rw [hflag, hflag']⟩

/-! ## What is decided -/

theorem first (h : Visits target nightly w tests summary r vs o) {v : Visit δ} (hv : vs[0]? = some v) :
    tests[0]? = some v.test := by
  cases h with
  | done => cases hv
  | stopped _ => cases hv
  | broken _ _ =>
    cases hv
    rfl
  | passed _ _ _ =>
    cases hv
    rfl

/-- What a test leaves to the next. -/
theorem next (h : Visits target nightly w tests summary r vs o) {i : Nat} {v : Visit δ}
    (hv : vs[i + 1]? = some v) :
    ∃ u status, vs[i]? = some u ∧ u.status? = some status ∧
      v.test.shouldReboot =
        nextReboots u.test.shouldReboot status nightly v.test.needsAppLoad := by
  induction h generalizing i with
  | done => cases hv
  | stopped _ => cases hv
  | broken _ _ => cases hv
  | @passed t rest _ _ _ verdict _ vs _ _ _ hrest ih =>
    cases i with
    | succ i => exact ih hv
    | zero =>
      refine ⟨_, verdict.status, rfl, rfl, ?_⟩
      have hfirst := hrest.first hv
      cases rest with
      | nil => cases hfirst
      | cons u rest =>
        obtain hu := Option.some.inj hfirst
        rw [← hu]
        rfl

/-- A test before one that the run came to did not end the run. -/
theorem exists_status (h : Visits target nightly w tests summary r vs o) {i k : Nat} {v : Visit δ}
    (hik : i < k) (hv : vs[k]? = some v) : ∃ u status, vs[i]? = some u ∧ u.status? = some status := by
  obtain ⟨hk, -⟩ := List.getElem?_eq_some_iff.1 hv
  have hi : i + 1 < vs.length := by omega
  obtain ⟨u, status, hu, hstatus, -⟩ := h.next (List.getElem?_eq_getElem hi)
  exact ⟨u, status, hu, hstatus⟩

end Visits

/-- What is decided for the test at place `i`, by what became of the tests before it. -/
structure Scheduled (nightly : Bool) (tests : List (Test δ)) (vs : List (Visit δ)) (i : Nat)
    (flag : Bool) : Prop where
  /-- All before it were skipped. -/
  first : (∀ j < i, SkippedAt vs j) → tests[0]?.map (·.shouldReboot) = some flag
  /-- The test at `j` is the last before it that was not skipped. -/
  after : ∀ j < i, ∀ v status, vs[j]? = some v → v.status? = some status → status ≠ .skip →
    (∀ k, j < k → k < i → SkippedAt vs k) →
    flag = (status = .fail || nightly || tests[j + 1]?.any (·.needsAppLoad))

namespace Visits

variable {target : Target δ} {nightly : Bool} {w : Watcher δ} {tests : List (Test δ)}
  {summary : Summary} {r : Run δ} {vs : List (Visit δ)} {o : Except Error Summary × Run δ}

theorem needsAppLoad_eq (h : Visits target nightly w tests summary r vs o) {i : Nat} {v : Visit δ}
    (hv : vs[i]? = some v) : tests[i]?.any (·.needsAppLoad) = v.test.needsAppLoad := by
  obtain ⟨t, ht, hflag⟩ := h.getElem?_test hv
  rw [ht, hflag]
  rfl

/-- A test that was skipped hands on what was decided for it. -/
theorem inherits (h : Visits target nightly w tests summary r vs o) {i : Nat} {u v : Visit δ}
    (hu : vs[i]? = some u) (hv : vs[i + 1]? = some v) (hskip : SkippedAt vs i) :
    v.test.shouldReboot = u.test.shouldReboot := by
  obtain ⟨x, status, hx, hstatus, hnext⟩ := h.next hv
  obtain rfl := Option.some.inj (hu.symm.trans hx)
  obtain ⟨y, hy, hst⟩ := hskip
  obtain rfl := Option.some.inj (hu.symm.trans hy)
  obtain rfl := Option.some.inj (hstatus.symm.trans hst)
  rw [hnext]
  rfl

theorem inherits_all (h : Visits target nightly w tests summary r vs o) {i k : Nat} {u v : Visit δ}
    (hik : i ≤ k) (hu : vs[i]? = some u) (hv : vs[k]? = some v)
    (hskip : ∀ j, i ≤ j → j < k → SkippedAt vs j) :
    v.test.shouldReboot = u.test.shouldReboot := by
  induction hik generalizing v with
  | refl =>
    obtain rfl := Option.some.inj (hu.symm.trans hv)
    rfl
  | @step k hik ih =>
    obtain ⟨x, -, hx, -⟩ := h.next hv
    calc v.test.shouldReboot
        = x.test.shouldReboot := h.inherits hx hv (hskip k hik (Nat.lt_succ_self k))
      _ = u.test.shouldReboot := ih hx fun j hij hjk => hskip j hij (Nat.lt_succ_of_lt hjk)

/-- The decision for a test is made by the last test before it that was not skipped. -/
theorem scheduled (h : Visits target nightly w tests summary r vs o) {i : Nat} {v : Visit δ}
    (hv : vs[i]? = some v) : Scheduled nightly tests vs i v.test.shouldReboot := by
  induction i generalizing v with
  | zero =>
    refine ⟨fun _ => ?_, fun j hj => absurd hj (Nat.not_lt_zero j)⟩
    rw [h.first hv]
    rfl
  | succ i ih =>
    obtain ⟨u, status, hu, hstatus, hnext⟩ := h.next hv
    have hu' := ih hu
    constructor
    · intro hskip
      rw [h.inherits hu hv (hskip i (Nat.lt_succ_self i))]
      exact hu'.first fun j hj => hskip j (Nat.lt_succ_of_lt hj)
    · intro j hj x st hx hst hne hbetween
      by_cases hji : j = i
      · subst hji
        obtain rfl := Option.some.inj (hu.symm.trans hx)
        obtain rfl := Option.some.inj (hstatus.symm.trans hst)
        rw [hnext, nextReboots, if_neg hne, h.needsAppLoad_eq hv]
      · have hlt : j < i := by omega
        rw [h.inherits hu hv (hbetween i hlt (Nat.lt_succ_self i))]
        exact hu'.after j hlt x st hx hst hne fun k hjk hki =>
          hbetween k hjk (Nat.lt_succ_of_lt hki)

/-- Once a reboot is due, because a test failed or because one that did not pass was to reboot, it stays
due up to the first test that passes. -/
theorem reboot_due (h : Visits target nightly w tests summary r vs o) {i k : Nat} {u v : Visit δ}
    (hu : vs[i]? = some u)
    (hdue : u.status? = some .fail ∨ u.test.shouldReboot = true ∧ u.status? ≠ some .ok)
    (hik : i < k) (hv : vs[k]? = some v)
    (hbetween : ∀ j x, i < j → j < k → vs[j]? = some x → x.status? ≠ some .ok) :
    v.test.shouldReboot = true := by
  induction k generalizing v with
  | zero => exact absurd hik (Nat.not_lt_zero i)
  | succ k ih =>
    obtain ⟨x, status, hx, hstatus, hnext⟩ := h.next hv
    rw [hnext]
    by_cases hki : k = i
    · subst hki
      obtain rfl := Option.some.inj (hu.symm.trans hx)
      rcases hdue with hfail | ⟨hflag, hok⟩
      · obtain rfl := Option.some.inj (hfail.symm.trans hstatus)
        rfl
      · cases status with
        | ok => exact absurd hstatus hok
        | fail => rfl
        | skip => exact hflag
    · have hlt : i < k := by omega
      have hx' := ih hlt hx fun j y hij hjk => hbetween j y hij (Nat.lt_succ_of_lt hjk)
      have hok := hbetween k x hlt (Nat.lt_succ_self k) hx
      cases status with
      | ok => exact absurd hstatus hok
      | fail => rfl
      | skip => exact hx'

/-- In nightly mode the board is rebooted before every test if it is before the first. -/
theorem reboots_nightly (h : Visits target true w tests summary r vs o)
    (hfirst : tests[0]?.any (·.shouldReboot) = true) {i : Nat} {v : Visit δ} (hv : vs[i]? = some v) :
    v.test.shouldReboot = true := by
  induction i generalizing v with
  | zero =>
    rw [h.first hv] at hfirst
    exact hfirst
  | succ i ih =>
    obtain ⟨u, status, hu, -, hnext⟩ := h.next hv
    rw [hnext]
    cases status with
    | ok => rfl
    | fail => rfl
    | skip => exact ih hu

end Visits

/-! ## The whole of a run -/

/-- Programs the board if asked to. -/
def prepare (target : Target δ) (plan : RunPlan) (w : Watcher δ) : Act (Run δ) Unit := do
  if plan.flash then
    onSession (target.flash w.flashProgress)

/-- What comes of a run when its tests are over. -/
def conclude (w : Watcher δ) : Except Error Summary × Run δ → Except Error Summary × Run δ
  | (.error e, r) => (.error e, r)
  | (.ok summary, r) => (.ok summary, (report w (.summary summary) r).2)

/-- A run with the tests that it came to. -/
inductive Executes (target : Target δ) (plan : RunPlan) (w : Watcher δ) (tests : List (Test δ)) :
    Run δ → List (Visit δ) → Except Error Summary × Run δ → Prop
  | unprepared {r e r'} : prepare target plan w r = (.error e, r') →
      Executes target plan w tests r [] (.error e, r')
  | untested {r r₁} : prepare target plan w r = (.ok (), r₁) → plan.test = false →
      Executes target plan w tests r [] (conclude w (.ok {}, r₁))
  | tested {r r₁ vs o} : prepare target plan w r = (.ok (), r₁) → plan.test = true →
      Visits target plan.nightly w tests {} r₁ vs o →
      Executes target plan w tests r vs (conclude w o)

theorem execute_eq (target : Target δ) (plan : RunPlan) (w : Watcher δ) (tests : List (Test δ)) :
    execute target plan w tests = (do
      prepare target plan w
      let summary ← (if plan.test then runTests target plan.nightly w tests {} else Pure.pure {})
      report w (.summary summary)
      return summary) := by
  rcases plan with ⟨nightly, _ | _, _ | _⟩ <;> rfl

omit [Bench δ] [Transport δ] in
theorem bind_report (w : Watcher δ) (x : Act (Run δ) Summary) (r : Run δ) :
    (do
      let summary ← x
      report w (.summary summary)
      return summary) r = conclude w (x r) := by
  rcases hx : x r with ⟨e | summary, r'⟩
  · rw [Act.bind_error hx]
    rfl
  · rw [Act.bind_ok hx, Act.bind_ok (report_apply _ _ _)]
    rfl

/-- Every run has a history. -/
theorem exists_executes (target : Target δ) (plan : RunPlan) (w : Watcher δ) (tests : List (Test δ))
    (r : Run δ) :
    ∃ vs, Executes target plan w tests r vs (execute target plan w tests r) := by
  rw [execute_eq]
  rcases hprepare : prepare target plan w r with ⟨e | _, r₁⟩
  · rw [Act.bind_error hprepare]
    exact ⟨[], .unprepared hprepare⟩
  rw [Act.bind_ok hprepare, bind_report]
  by_cases htest : plan.test = true
  · rw [if_pos htest]
    obtain ⟨vs, hvs⟩ := exists_visits target plan.nightly w tests {} r₁
    exact ⟨vs, .tested hprepare htest hvs⟩
  · rw [if_neg htest]
    exact ⟨[], .untested hprepare (Bool.eq_false_iff.2 htest)⟩

/-- What is true of every history of the tests is true of the history of the run. -/
theorem Executes.of_visits {target : Target δ} {plan : RunPlan} {w : Watcher δ}
    {tests : List (Test δ)} {r : Run δ} {vs : List (Visit δ)} {o : Except Error Summary × Run δ}
    (h : Executes target plan w tests r vs o) :
    vs = [] ∨ ∃ r₁ o', Visits target plan.nightly w tests {} r₁ vs o' := by
  cases h with
  | unprepared _ => exact .inl rfl
  | untested _ _ => exact .inl rfl
  | tested _ _ hvs => exact .inr ⟨_, _, hvs⟩

end Run
end BoardBench
