import BoardBench.Proofs.Runner.Rebooting

/-!
# The account of a run

A run is told as the moments it went through: the board is programmed, it is asked whether the run is to
stop, something is reported, a test is run. `Course` says what each of them does to the session, so
nothing else was done to it. Tests are run in order, each between two reports; what breaks off a run
comes last and nothing is reported of it; and the counts of a run that is not broken off are those of
the verdicts that were reported (`execute_accounts`).
-/

namespace BoardBench

/-- The same test, whatever was decided about its reboot. -/
def Test.Is {δ : Type} (t u : Test δ) : Prop := t = { u with shouldReboot := t.shouldReboot }

theorem Test.Is.refl {δ : Type} (t : Test δ) : t.Is t := rfl

theorem Test.Is.trans {δ : Type} {t u v : Test δ} (h : t.Is u) (h' : u.Is v) : t.Is v := by
  unfold Test.Is at *
  rw [h, h']

namespace Stage

variable {δ : Type} [Bench δ] [Transport δ] {target : Target δ} {b : Body δ} {timeout : Span}

/-- A stage failed, and those before it did not. -/
inductive Raises (target : Target δ) (b : Body δ) (timeout : Span) :
    List Stage → Trial δ → Error → Trial δ → Prop
  | here {stage rest t e t'} : stage.run target b timeout t = (.error e, t') →
      Raises target b timeout (stage :: rest) t e t'
  | later {stage rest t u e t'} : stage.run target b timeout t = (.ok true, u) →
      Raises target b timeout rest u e t' → Raises target b timeout (stage :: rest) t e t'

theorem runAll_eq_error_iff {stages : List Stage} {t t' : Trial δ} {e : Error} :
    runAll target b timeout stages t = (.error e, t') ↔
      Raises target b timeout stages t e t' ∧ e.isFatal = true := by
  constructor
  · intro h
    induction stages generalizing t with
    | nil => cases h
    | cons stage rest ih =>
      rcases hstage : stage.run target b timeout t with ⟨e' | _ | _, u⟩ <;> simp only [runAll, hstage] at h
      · by_cases hfatal : e'.isFatal = true
        · rw [if_pos hfatal] at h
          cases h
          exact ⟨.here hstage, hfatal⟩
        · rw [if_neg hfatal] at h
          cases h
      · cases h
      · obtain ⟨hraises, hfatal⟩ := ih h
        exact ⟨.later hstage hraises, hfatal⟩
  · rintro ⟨h, hfatal⟩
    induction h with
    | here hstage => simp only [runAll, hstage, if_pos hfatal]
    | later hstage _ ih =>
      simp only [runAll, hstage]
      exact ih hfatal

end Stage

namespace Run

variable {δ : Type} [Bench δ] [Transport δ]

/-- A stage of the test raises an error that ends the run. -/
def RaisesFatal (target : Target δ) (t : Test δ) (s : Session δ) (e : Error) (s' : Session δ) : Prop :=
  ∃ stages u, t.ignore = false ∧ t.stages target = .ok stages ∧
    Stage.Raises target t.body t.timeout stages ⟨s, {}⟩ e u ∧ e.isFatal = true ∧ s' = u.session

theorem runOne_eq_error_iff {target : Target δ} {t : Test δ} {s s' : Session δ} {e : Error} :
    runOne target t s = (.error e, s') ↔ RaisesFatal target t s e s' := by
  unfold runOne
  by_cases hignore : t.ignore = true
  · rw [if_pos hignore]
    constructor
    · intro h
      cases h
    · rintro ⟨_, _, hnot, -⟩
      rw [hignore] at hnot
      cases hnot
  rw [if_neg hignore]
  rcases hstages : t.stages target with e' | stages
  · constructor
    · intro h
      cases h
    · rintro ⟨_, _, -, hok, -⟩
      rw [hstages] at hok
      cases hok
  constructor
  · intro h
    rcases hrun : Stage.runAll target t.body t.timeout stages ⟨s, {}⟩ with ⟨e' | _, u⟩ <;>
      simp only [Stage.drive, hrun] at h <;> cases h
    obtain ⟨hraises, hfatal⟩ := Stage.runAll_eq_error_iff.1 hrun
    exact ⟨stages, u, Bool.eq_false_iff.2 hignore, hstages, hraises, hfatal, rfl⟩
  · rintro ⟨_, u, -, hok, hraises, hfatal, rfl⟩
    obtain rfl := Except.ok.inj (hstages.symm.trans hok)
    simp only [Stage.drive, Stage.runAll_eq_error_iff.2 ⟨hraises, hfatal⟩]
    rfl

/-- A test that is ignored or does not compose leaves the session, whatever it is on, as it is. -/
theorem runOne_of_not_isRun {target : Target δ} {t : Test δ} (h : t.isRun target = false)
    (s : Session δ) : ∃ v, runOne target t s = (.ok v, s) ∧ v.status ≠ .ok := by
  unfold runOne
  by_cases hignore : t.ignore = true
  · rw [if_pos hignore]
    exact ⟨_, rfl, nofun⟩
  rw [if_neg hignore]
  rcases hstages : t.stages target with e | stages
  · exact ⟨_, rfl, nofun⟩
  · unfold Test.isRun at h
    rw [hstages, Bool.eq_false_iff.2 hignore] at h
    cases h

/-! ## Moments -/

/-- Something that a run goes through. -/
inductive Moment (δ : Type) where
  | flashed (answer : Except Error Unit)
  | asked (stop : Bool)
  | told (report : Report)
  | ran (test : Test δ) (verdict : Verdict)
  /-- A stage of the test raised an error that ends the run. -/
  | broke (test : Test δ) (error : Error)

/-- What a moment does to the session. -/
inductive Happens (target : Target δ) (w : Watcher δ) : Moment δ → Session δ → Session δ → Prop
  | flashed {x s s'} : target.flash w.flashProgress s = (x, s') → Happens target w (.flashed x) s s'
  | asked {stop d s} : w.interrupted s.device = (stop, d) →
      Happens target w (.asked stop) s { s with device := d }
  | told {what s} : Happens target w (.told what) s { s with device := w.tell what s.device }
  | ran {t v s s'} : runOne target t s = (.ok v, s') → Happens target w (.ran t v) s s'
  | broke {t e s s'} : RaisesFatal target t s e s' → Happens target w (.broke t e) s s'

/-- The moments led from one session to the other. -/
inductive Course (target : Target δ) (w : Watcher δ) : List (Moment δ) → Session δ → Session δ → Prop
  | nil {s} : Course target w [] s s
  | cons {m ms s t u} : Happens target w m s t → Course target w ms t u → Course target w (m :: ms) s u

theorem Course.append {target : Target δ} {w : Watcher δ} {ms ms' : List (Moment δ)} {s t u : Session δ}
    (h : Course target w ms s t) (h' : Course target w ms' t u) : Course target w (ms ++ ms') s u := by
  induction h with
  | nil => exact h'
  | cons hm _ ih => exact .cons hm (ih h')

section

omit [Bench δ] [Transport δ]

namespace Moment

def report? : Moment δ → Option Report
  | told report => some report
  | _ => none

/-- The error with which the moment breaks the run off, if it does. -/
def error? : Moment δ → Option Error
  | flashed (.error e) | broke _ e => some e
  | asked true => some .interrupted
  | _ => none

/-- The moments of a test that ends with a verdict. -/
def round (d : Test δ × Verdict) : List (Moment δ) :=
  [asked false, told (.started d.1.name), ran d.1 d.2, told (.finished d.1.name d.2)]

theorem filterMap_report?_round (ran : List (Test δ × Verdict)) :
    (ran.flatMap round).filterMap report? =
      ran.flatMap fun d => [.started d.1.name, .finished d.1.name d.2] := by
  induction ran with
  | nil => rfl
  | cons d ran ih =>
    rw [List.flatMap_cons, List.filterMap_append, ih, List.flatMap_cons]
    rfl

theorem error?_eq_none_of_mem_round {ran : List (Test δ × Verdict)} {m : Moment δ}
    (h : m ∈ ran.flatMap round) : m.error? = none := by
  obtain ⟨d, -, hm⟩ := List.mem_flatMap.1 h
  simp only [round, List.mem_cons, List.not_mem_nil, or_false] at hm
  rcases hm with rfl | rfl | rfl | rfl <;> rfl

end Moment

/-! ## Tests in order -/

/-- The counts when these verdicts have been added to them. -/
def tally (summary : Summary) (ran : List (Test δ × Verdict)) : Summary :=
  ran.foldl (fun s d => s.record d.2.status) summary

theorem tally_eq (summary : Summary) (ran : List (Test δ × Verdict)) :
    let statuses := ran.map fun d => d.2.status
    tally summary ran = ⟨summary.passed + statuses.count .ok, summary.failed + statuses.count .fail,
      summary.skipped + statuses.count .skip⟩ := by
  induction ran generalizing summary with
  | nil => rfl
  | cons d ran ih =>
    have hstep := ih (summary.record d.2.status)
    simp only [tally, List.foldl_cons] at hstep ⊢
    rw [hstep, List.map_cons]
    cases hstatus : d.2.status <;> simp [Summary.record] <;> omega

/-- These are the first of the tests, in order. -/
def Heads (ran : List (Test δ × Verdict)) (tests : List (Test δ)) : Prop :=
  ∀ (i : Nat) (d : Test δ × Verdict), ran[i]? = some d → ∃ u, tests[i]? = some u ∧ d.1.Is u

/-- How a run of tests ends of which the tests of `ran` were finished. -/
inductive Closes (tests : List (Test δ)) (summary : Summary) (ran : List (Test δ × Verdict)) :
    List (Moment δ) → Except Error Summary → Prop
  | ended : ran.length = tests.length → Closes tests summary ran [] (.ok (tally summary ran))
  | stopped : ran.length < tests.length →
      Closes tests summary ran [.asked true] (.error .interrupted)
  | broken {t u e} : tests[ran.length]? = some u → t.Is u →
      Closes tests summary ran [.asked false, .told (.started t.name), .broke t e] (.error e)

theorem is_of_reschedule {current : Bool} {status : Status} {nightly : Bool} {tests : List (Test δ)}
    {i : Nat} {t : Test δ} (h : (reschedule current status nightly tests)[i]? = some t) :
    ∃ u, tests[i]? = some u ∧ t.Is u :=
  getElem?_reschedule h

/-- A test that is finished before the others are run. -/
theorem Closes.cons {tests : List (Test δ)} {summary : Summary} {ran : List (Test δ × Verdict)}
    {t : Test δ} {v : Verdict} {nightly : Bool} {closing : List (Moment δ)} {x : Except Error Summary}
    (h : Closes (reschedule t.shouldReboot v.status nightly tests) (summary.record v.status) ran
      closing x) : Closes (t :: tests) summary ((t, v) :: ran) closing x := by
  cases h with
  | ended hlen =>
    rw [length_reschedule] at hlen
    exact .ended (congrArg (· + 1) hlen)
  | stopped hlen =>
    rw [length_reschedule] at hlen
    exact .stopped (Nat.succ_lt_succ hlen)
  | broken hu his =>
    obtain ⟨u, hu', his'⟩ := is_of_reschedule hu
    exact .broken hu' (his.trans his')

theorem Heads.nil (tests : List (Test δ)) : Heads [] tests := by
  intro i d hd
  cases hd

theorem Heads.cons {tests : List (Test δ)} {ran : List (Test δ × Verdict)} {t : Test δ} {v : Verdict}
    {nightly : Bool} (h : Heads ran (reschedule t.shouldReboot v.status nightly tests)) :
    Heads ((t, v) :: ran) (t :: tests) := by
  intro i d hd
  cases i with
  | zero =>
    obtain rfl := Option.some.inj hd
    exact ⟨t, rfl, .refl t⟩
  | succ i =>
    obtain ⟨u, hu, his⟩ := h i d hd
    obtain ⟨u', hu', his'⟩ := is_of_reschedule hu
    exact ⟨u', hu', his.trans his'⟩

theorem begin_apply (w : Watcher δ) (t : Test δ) (r : Run δ) :
    begin w t r = if (w.interrupted r.session.device).1 then
        (.error .interrupted, { r with
          reboots := r.reboots ++ [t.shouldReboot]
          session := { r.session with device := (w.interrupted r.session.device).2 } })
      else (.ok (), { r with
        reboots := r.reboots ++ [t.shouldReboot]
        reports := r.reports ++ [.started t.name]
        session := { r.session with
          device := w.tell (.started t.name) (w.interrupted r.session.device).2 } }) := by
  unfold begin checkInterrupt
  rw [Act.change_bind, Act.bind_assoc]
  have hask : onSession (Session.onDevice fun d => (.ok (w.interrupted d).1, (w.interrupted d).2))
      { r with reboots := r.reboots ++ [t.shouldReboot] } =
      (.ok (w.interrupted r.session.device).1, { r with
        reboots := r.reboots ++ [t.shouldReboot]
        session := { r.session with device := (w.interrupted r.session.device).2 } }) := rfl
  rw [Act.bind_ok hask]
  cases (w.interrupted r.session.device).1 <;> rfl

/-- The run is stopped before a test. -/
theorem begin_eq_error {w : Watcher δ} {t : Test δ} {r r' : Run δ} {e : Error}
    (h : begin w t r = (.error e, r')) :
    ∃ d, w.interrupted r.session.device = (true, d) ∧ e = .interrupted ∧
      r'.session = { r.session with device := d } ∧ r'.reports = r.reports := by
  rw [begin_apply] at h
  split at h
  · rename_i hstop
    cases h
    exact ⟨_, Prod.ext hstop rfl, rfl, rfl, rfl⟩
  · cases h

/-- The run is not stopped before a test. -/
theorem begin_eq_ok {w : Watcher δ} {t : Test δ} {r r' : Run δ} (h : begin w t r = (.ok (), r')) :
    ∃ d, w.interrupted r.session.device = (false, d) ∧
      r'.session = { r.session with device := w.tell (.started t.name) d } ∧
      r'.reports = r.reports ++ [.started t.name] := by
  rw [begin_apply] at h
  split at h
  · cases h
  · rename_i hstop
    cases h
    exact ⟨_, Prod.ext (Bool.eq_false_iff.2 hstop) rfl, rfl, rfl⟩

end

/-- The course of a run of tests. -/
theorem Visits.exists_course {target : Target δ} {nightly : Bool} {w : Watcher δ}
    {tests : List (Test δ)} {summary : Summary} {r : Run δ} {vs : List (Visit δ)}
    {o : Except Error Summary × Run δ} (h : Visits target nightly w tests summary r vs o) :
    ∃ ran closing, Heads ran tests ∧ Closes tests summary ran closing o.1 ∧
      Course target w (ran.flatMap Moment.round ++ closing) r.session o.2.session ∧
      o.2.reports = r.reports ++ (ran.flatMap Moment.round ++ closing).filterMap Moment.report? := by
  induction h with
  | @done summary r =>
    exact ⟨[], [], .nil [], .ended rfl, .nil, (List.append_nil _).symm⟩
  | @stopped t rest summary r e r' hbegin =>
    obtain ⟨d, hask, rfl, hsession, hreports⟩ := begin_eq_error hbegin
    refine ⟨[], [.asked true], .nil _, .stopped (Nat.succ_pos _), ?_, ?_⟩
    · rw [hsession]
      exact .cons (.asked hask) .nil
    · rw [hreports]
      exact (List.append_nil _).symm
  | @broken t rest summary r r₁ e s hbegin hone =>
    obtain ⟨d, hask, hsession, hreports⟩ := begin_eq_ok hbegin
    refine ⟨[], [.asked false, .told (.started t.name), .broke t e], .nil _, .broken rfl (.refl t),
      ?_, hreports⟩
    rw [hsession] at hone
    exact .cons (.asked hask) (.cons .told (.cons (.broke (runOne_eq_error_iff.1 hone)) .nil))
  | @passed t rest summary r r₁ v s vs o hbegin hone _ ih =>
    obtain ⟨d, hask, hsession, hreports⟩ := begin_eq_ok hbegin
    obtain ⟨ran, closing, hheads, hcloses, hcourse, hrest⟩ := ih
    refine ⟨(t, v) :: ran, closing, hheads.cons, hcloses.cons, ?_, ?_⟩
    · rw [hsession] at hone
      exact .cons (.asked hask) (.cons .told (.cons (.ran hone) (.cons .told hcourse)))
    · rw [hrest, report_apply]
      show (r₁.reports ++ [.finished t.name v]) ++ _ =
        r.reports ++ ([.started t.name, .finished t.name v] ++
          (ran.flatMap Moment.round ++ closing).filterMap Moment.report?)
      rw [hreports, List.append_assoc, List.append_assoc]
      rfl

/-! ## The whole run -/

/-- The tests that are to be run. -/
def planned (plan : RunPlan) (tests : List (Test δ)) : List (Test δ) := if plan.test then tests else []

/-- What comes before the tests, if it does not end the run. -/
def opened (plan : RunPlan) : List (Moment δ) := if plan.flash then [.flashed (.ok ())] else []

/-- The counts are told last, if there are any. -/
def farewell : Except Error Summary → List (Moment δ)
  | .ok summary => [.told (.summary summary)]
  | .error _ => []

/-- How the moments of a run come together. -/
inductive Accounts (plan : RunPlan) (tests : List (Test δ)) :
    List (Moment δ) → List (Test δ × Verdict) → List (Moment δ) → Except Error Summary → Prop
  | unprepared {e} : plan.flash = true → Accounts plan tests [.flashed (.error e)] [] [] (.error e)
  | prepared {ran closing x} : Heads ran (planned plan tests) →
      Closes (planned plan tests) {} ran closing x →
      Accounts plan tests (opened plan) ran (closing ++ farewell x) x

/-- What may break off a run. -/
inductive Cause where
  | flash
  | interrupt
  | stage
  deriving DecidableEq, Repr

/-- How the moments of a run that ended with an error show its cause: those before the tests, the tests
that were finished, and those after them. -/
def Cause.Shows (plan : RunPlan) (tests : List (Test δ)) (opening : List (Moment δ))
    (ran : List (Test δ × Verdict)) (closing : List (Moment δ)) (e : Error) : Cause → Prop
  | flash => opening = [.flashed (.error e)] ∧ ran = [] ∧ closing = []
  | interrupt => opening = opened plan ∧ e = .interrupted ∧ ran.length < (planned plan tests).length ∧
      closing = [.asked true]
  | stage => opening = opened plan ∧ ∃ t u, (planned plan tests)[ran.length]? = some u ∧ t.Is u ∧
      closing = [.asked false, .told (.started t.name), .broke t e]

namespace Accounts

omit [Bench δ] [Transport δ]

variable {plan : RunPlan} {tests : List (Test δ)} {opening closing : List (Moment δ)}
  {ran : List (Test δ × Verdict)} {x : Except Error Summary} {e : Error}

/-- There is but one cause: each leaves another number of moments after the tests. -/
theorem cause_unique {c c' : Cause}
    (h : c.Shows plan tests opening ran closing e) (h' : c'.Shows plan tests opening ran closing e) :
    c' = c := by
  have hlen {c : Cause} (h : c.Shows plan tests opening ran closing e) :
      closing.length = match c with | .flash => 0 | .interrupt => 1 | .stage => 3 := by
    cases c with
    | flash => exact congrArg List.length h.2.2
    | interrupt => exact congrArg List.length h.2.2.2
    | stage =>
      obtain ⟨-, _, _, -, -, hclosing⟩ := h
      exact congrArg List.length hclosing
  have hsame := (hlen h).symm.trans (hlen h')
  cases c <;> cases c' <;> first | rfl | cases hsame

theorem heads (h : Accounts plan tests opening ran closing x) : Heads ran (planned plan tests) := by
  cases h with
  | unprepared _ => exact .nil _
  | prepared hheads _ => exact hheads

theorem opening_eq (h : Accounts plan tests opening ran closing x) :
    if plan.flash then ∃ answer, opening = [.flashed answer] else opening = [] := by
  cases h with
  | unprepared hflash =>
    rw [if_pos hflash]
    exact ⟨_, rfl⟩
  | prepared _ _ =>
    unfold opened
    split
    · exact ⟨_, rfl⟩
    · rfl

theorem of_ok {summary : Summary} (h : Accounts plan tests opening ran closing (.ok summary)) :
    ran.length = (planned plan tests).length ∧ opening = opened plan ∧
      closing = [.told (.summary summary)] ∧ summary = tally {} ran := by
  cases h with
  | prepared _ hcloses =>
    cases hcloses with
    | ended hlen => exact ⟨hlen, rfl, rfl, rfl⟩

theorem of_error (h : Accounts plan tests opening ran closing (.error e)) :
    ∃ c : Cause, c.Shows plan tests opening ran closing e ∧
      ∀ c' : Cause, c'.Shows plan tests opening ran closing e → c' = c := by
  have hsome : ∃ c : Cause, c.Shows plan tests opening ran closing e := by
    cases h with
    | unprepared _ => exact ⟨.flash, rfl, rfl, rfl⟩
    | prepared _ hcloses =>
      cases hcloses with
      | stopped hlen => exact ⟨.interrupt, rfl, rfl, hlen, rfl⟩
      | broken hu his => exact ⟨.stage, rfl, _, _, hu, his, rfl⟩
  obtain ⟨c, hc⟩ := hsome
  exact ⟨c, hc, fun _ => cause_unique hc⟩

/-- Whatever breaks the run off is among its moments. -/
theorem ok_iff (h : Accounts plan tests opening ran closing x) :
    (∃ summary, x = .ok summary) ↔
      ∀ m ∈ opening ++ (ran.flatMap Moment.round ++ closing), m.error? = none := by
  have hopened : ∀ m ∈ opened (δ := δ) plan, m.error? = none := by
    intro m hm
    unfold opened at hm
    split at hm
    · obtain rfl := List.mem_singleton.1 hm
      rfl
    · cases hm
  rcases x with e | summary
  · constructor
    · rintro ⟨_, hx⟩
      cases hx
    · intro hall
      obtain ⟨c, hc, -⟩ := h.of_error
      have hsome : ∃ m ∈ opening ++ (ran.flatMap Moment.round ++ closing), m.error? = some e := by
        cases c with
        | flash =>
          obtain ⟨rfl, -, -⟩ := hc
          exact ⟨.flashed (.error e), by simp, rfl⟩
        | interrupt =>
          obtain ⟨-, rfl, -, rfl⟩ := hc
          exact ⟨.asked true, by simp, rfl⟩
        | stage =>
          obtain ⟨-, t, _, -, -, rfl⟩ := hc
          exact ⟨.broke t e, by simp, rfl⟩
      obtain ⟨m, hm, herror⟩ := hsome
      rw [hall m hm] at herror
      cases herror
  · refine ⟨fun _ m hm => ?_, fun _ => ⟨summary, rfl⟩⟩
    obtain ⟨-, rfl, rfl, -⟩ := h.of_ok
    rcases List.mem_append.1 hm with hm | hm
    · exact hopened m hm
    · rcases List.mem_append.1 hm with hm | hm
      · exact Moment.error?_eq_none_of_mem_round hm
      · obtain rfl := List.mem_singleton.1 hm
        rfl

/-- The counts are told only when the run is over. -/
theorem not_summary (h : Accounts plan tests opening ran closing (.error e)) (summary : Summary) :
    .told (.summary summary) ∉ opening ++ (ran.flatMap Moment.round ++ closing) := by
  obtain ⟨c, hc, -⟩ := h.of_error
  have hround : .told (.summary summary) ∉ ran.flatMap Moment.round := by
    intro hmem
    obtain ⟨d, -, hd⟩ := List.mem_flatMap.1 hmem
    simp [Moment.round] at hd
  have hopened : .told (.summary summary) ∉ opened (δ := δ) plan := by
    unfold opened
    split <;> simp
  cases c with
  | flash =>
    obtain ⟨rfl, rfl, rfl⟩ := hc
    simp
  | interrupt =>
    obtain ⟨rfl, -, -, rfl⟩ := hc
    simp [hround, hopened]
  | stage =>
    obtain ⟨rfl, t, _, -, -, rfl⟩ := hc
    simp [hround, hopened]

end Accounts

/-- Programming the board is a course of its own. -/
theorem prepare_course {target : Target δ} {plan : RunPlan} {w : Watcher δ} {r r' : Run δ}
    {x : Except Error Unit} (h : prepare target plan w r = (x, r')) :
    r'.reports = r.reports ∧
      if plan.flash then Course target w [.flashed x] r.session r'.session
      else x = .ok () ∧ r' = r := by
  unfold prepare at h
  split
  · rename_i hflash
    rw [if_pos hflash] at h
    obtain ⟨s, hs, rfl⟩ := Act.zoom_eq_iff.1 h
    exact ⟨rfl, .cons (.flashed hs) .nil⟩
  · rename_i hflash
    rw [if_neg hflash] at h
    cases h
    exact ⟨rfl, rfl, rfl⟩

theorem prepare_course_ok {target : Target δ} {plan : RunPlan} {w : Watcher δ} {r r' : Run δ}
    (h : prepare target plan w r = (.ok (), r')) :
    r'.reports = r.reports ∧ Course target w (opened plan) r.session r'.session := by
  obtain ⟨hreports, hcourse⟩ := prepare_course h
  refine ⟨hreports, ?_⟩
  unfold opened
  split at hcourse
  · rename_i hflash
    rwa [if_pos hflash]
  · rename_i hflash
    obtain ⟨-, rfl⟩ := hcourse
    rw [if_neg hflash]
    exact .nil

/-- The end of a run adds nothing but the report of the counts. -/
theorem conclude_course {target : Target δ} {w : Watcher δ} {ms : List (Moment δ)} {s : Session δ}
    {o : Except Error Summary × Run δ} (h : Course target w ms s o.2.session) :
    (conclude w o).1 = o.1 ∧ Course target w (ms ++ farewell o.1) s (conclude w o).2.session ∧
      (conclude w o).2.reports = o.2.reports ++ (farewell (δ := δ) o.1).filterMap Moment.report? := by
  obtain ⟨e | summary, r⟩ := o
  · refine ⟨rfl, ?_, (List.append_nil _).symm⟩
    rw [show farewell (.error e) = ([] : List (Moment δ)) from rfl, List.append_nil]
    exact h
  · exact ⟨rfl, h.append (.cons .told .nil), rfl⟩

/-- Every run has a course. -/
theorem Executes.exists_course {target : Target δ} {plan : RunPlan} {w : Watcher δ}
    {tests : List (Test δ)} {r : Run δ} {vs : List (Visit δ)} {o : Except Error Summary × Run δ}
    (h : Executes target plan w tests r vs o) :
    ∃ opening ran closing, Accounts plan tests opening ran closing o.1 ∧
      Course target w (opening ++ (ran.flatMap Moment.round ++ closing)) r.session o.2.session ∧
      o.2.reports = r.reports ++
        (ran.flatMap Moment.round ++ closing).filterMap Moment.report? := by
  -- tests that were run are one course with what came before them and the report that follows
  have join {r₁ : Run δ} {vs : List (Visit δ)} {o : Except Error Summary × Run δ}
      (hprepare : prepare target plan w r = (.ok (), r₁))
      (hvs : Visits target plan.nightly w (planned plan tests) {} r₁ vs o) :
      ∃ opening ran closing, Accounts plan tests opening ran closing (conclude w o).1 ∧
        Course target w (opening ++ (ran.flatMap Moment.round ++ closing)) r.session
          (conclude w o).2.session ∧
        (conclude w o).2.reports = r.reports ++
          (ran.flatMap Moment.round ++ closing).filterMap Moment.report? := by
    obtain ⟨hreports, hopened⟩ := prepare_course_ok hprepare
    obtain ⟨ran, closing, hheads, hcloses, hcourse, hrest⟩ := hvs.exists_course
    obtain ⟨hval, hcourse', hreports'⟩ := conclude_course (hopened.append hcourse)
    refine ⟨opened plan, ran, closing ++ farewell o.1, ?_, ?_, ?_⟩
    · rw [hval]
      exact .prepared hheads hcloses
    · simpa only [List.append_assoc] using hcourse'
    · rw [hreports', hrest, hreports]
      simp only [List.filterMap_append, List.append_assoc]
  cases h with
  | unprepared hprepare =>
    obtain ⟨hreports, hcourse⟩ := prepare_course hprepare
    split at hcourse
    · rename_i hflash
      refine ⟨_, [], [], .unprepared hflash, hcourse, ?_⟩
      rw [hreports]
      exact (List.append_nil _).symm
    · obtain ⟨hnot, -⟩ := hcourse
      cases hnot
  | untested hprepare htest =>
    have hnone : planned plan tests = [] := by
      unfold planned
      rw [htest]
      rfl
    have hvisits {r₁ : Run δ} :
        Visits target plan.nightly w (planned plan tests) {} r₁ [] (.ok {}, r₁) := by
      rw [hnone]
      exact .done
    exact join hprepare hvisits
  | tested hprepare htest hvs =>
    have hall : planned plan tests = tests := if_pos htest
    rw [← hall] at hvs
    exact join hprepare hvs

/-- The account of a run. It is made of moments, and they are all that happened to the session. Tests
are reported as started and as finished in turn and in order. The run is over exactly if nothing broke
it off, and then every test was finished, the counts are those of the verdicts that were reported, and
they were reported last. Else they are never reported, and there is one cause: the board could not be
programmed, and no test was started; the run was stopped between two tests; or a stage of the test after
those that were finished raised an error that ends the run. A test that is ignored or does not compose
does nothing to the session, nor does it ask for a reboot. -/
theorem execute_accounts (target : Target δ) (plan : RunPlan) (w : Watcher δ) (tests : List (Test δ))
    (r : Run δ) :
    (∃ opening ran closing,
      let out := execute target plan w tests r
      let moments := opening ++ (ran.flatMap Moment.round ++ closing)
      Course target w moments r.session out.2.session ∧
      out.2.reports = r.reports ++
        ((ran.flatMap fun d => [.started d.1.name, .finished d.1.name d.2]) ++
          closing.filterMap Moment.report?) ∧
      (if plan.flash then ∃ answer, opening = [.flashed answer] else opening = []) ∧
      Heads ran (planned plan tests) ∧
      ((∃ summary, out.1 = .ok summary) ↔ ∀ m ∈ moments, m.error? = none) ∧
      (∀ summary, out.1 = .ok summary →
        ran.length = (planned plan tests).length ∧
        closing = [.told (.summary summary)] ∧
        summary.passed = (ran.map fun d => d.2.status).count .ok ∧
        summary.failed = (ran.map fun d => d.2.status).count .fail ∧
        summary.skipped = (ran.map fun d => d.2.status).count .skip) ∧
      ∀ e, out.1 = .error e →
        (∃ c : Cause, c.Shows plan tests opening ran closing e ∧
          ∀ c' : Cause, c'.Shows plan tests opening ran closing e → c' = c) ∧
        ∀ summary, .told (.summary summary) ∉ moments) ∧
    ∀ (t : Test δ) (s : Session δ), t.isRun target = false →
      ∃ v, runOne target t s = (.ok v, s) ∧
        runOne target.tracked t.tracked s.tracked = (.ok v, s.tracked) := by
  refine ⟨?_, fun t s hnot => ?_⟩
  · obtain ⟨vs, hvs⟩ := exists_executes target plan w tests r
    obtain ⟨opening, ran, closing, haccounts, hcourse, hreports⟩ := hvs.exists_course
    rw [List.filterMap_append, Moment.filterMap_report?_round] at hreports
    refine ⟨opening, ran, closing, hcourse, hreports, haccounts.opening_eq, haccounts.heads,
      haccounts.ok_iff, fun summary hok => ?_, fun e herror => ?_⟩
    · rw [hok] at haccounts
      obtain ⟨hlen, -, hclosing, hsummary⟩ := haccounts.of_ok
      rw [tally_eq] at hsummary
      subst hsummary
      exact ⟨hlen, hclosing, Nat.zero_add _, Nat.zero_add _, Nat.zero_add _⟩
    · rw [herror] at haccounts
      exact ⟨haccounts.of_error, haccounts.not_summary⟩
  · obtain ⟨v, hv, -⟩ := runOne_of_not_isRun hnot s
    have htracked : t.tracked.isRun target.tracked = false := by
      unfold Test.isRun
      rw [Test.stages_tracked]
      exact hnot
    obtain ⟨v', hv', -⟩ := runOne_of_not_isRun htracked s.tracked
    obtain ⟨hval, -⟩ := runOne_tracked target t s
    rw [hv, hv'] at hval
    obtain rfl := Except.ok.inj hval
    exact ⟨v, hv, hv'⟩

end Run
end BoardBench
