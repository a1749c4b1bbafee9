import BoardBench.Proofs.Harness.Legs
import BoardBench.Proofs.Runner.Tracking
import BoardBench.Sim.World
import Mathlib

/-!
# What the run of a test comes to

The stages of a test are those that prepare the board, the body, and those that follow it
(`Test.stages_split`). A run passes exactly if all of them were run without an error and the body left
a passed verdict; a run that broke off failed where the board was being prepared exactly if it never
came to the body (`Test.course`).
-/

namespace BoardBench

namespace Test

variable {δ : Type} {t : Test δ} {target : Target δ} {stages : List Stage}

theorem stages_split (h : t.stages target = .ok stages) :
    ∃ front back, stages = front ++ .body :: back ∧
      (∀ stage ∈ front, stage ≠ .body ∧ stage.failureStage = .flash) ∧
      ∀ stage ∈ back, stage ≠ .body ∧ stage.failureStage = .run := by
  obtain ⟨boot, silence, speak, hboot, hlog, rfl⟩ := stages_eq_append h
  refine ⟨(if t.shouldReboot then [.reboot .soft] else []) ++ (boot ++
      (t.shellStages target.config ++ silence)),
    (t.prompt? target.config).toList.map .closingPrompt ++ speak, by simp, fun stage hmem => ?_,
    fun stage hmem => ?_⟩
  · simp only [List.mem_append] at hmem
    rcases hmem with hmem | hmem | hmem | hmem
    · by_cases hreboot : t.shouldReboot = true
      · rw [if_pos hreboot] at hmem
        obtain rfl := List.mem_singleton.1 hmem
        exact ⟨Stage.noConfusion, rfl⟩
      · rw [if_neg hreboot] at hmem
        cases hmem
    · obtain ⟨_, rfl, -⟩ := mem_bootloaderStages hboot hmem
      exact ⟨Stage.noConfusion, rfl⟩
    · obtain ⟨_, _, _, rfl⟩ := mem_shellStages hmem
      exact ⟨Stage.noConfusion, rfl⟩
    · rcases kernelLogStages_eq hlog with ⟨rfl, -⟩ | ⟨off, on, prompt, rfl, -⟩
      · cases hmem
      · obtain rfl := List.mem_singleton.1 hmem
        exact ⟨Stage.noConfusion, rfl⟩
  · rcases List.mem_append.1 hmem with hmem | hmem
    · obtain ⟨_, -, rfl⟩ := List.mem_map.1 hmem
      exact ⟨Stage.noConfusion, rfl⟩
    · rcases kernelLogStages_eq hlog with ⟨-, rfl⟩ | ⟨off, on, prompt, -, rfl⟩
      · cases hmem
      · obtain rfl := List.mem_singleton.1 hmem
        exact ⟨Stage.noConfusion, rfl⟩

/-- A test that loads applications has a loader to do it. -/
theorem loader_of_mem_stages (h : t.stages target = .ok stages) {apps : List AppSpec}
    (hmem : .bootloader apps ∈ stages) : apps = [] ∨ target.loader.isSome = true := by
  obtain ⟨boot, silence, speak, hboot, hlog, rfl⟩ := stages_eq_append h
  simp only [List.mem_append, List.mem_cons] at hmem
  rcases hmem with hmem | hmem | hmem | hmem | hmem | hmem | hmem
  · by_cases hreboot : t.shouldReboot = true
    · rw [if_pos hreboot] at hmem
      cases List.mem_singleton.1 hmem
    · rw [if_neg hreboot] at hmem
      cases hmem
  · obtain ⟨_, hs, hloads⟩ := mem_bootloaderStages hboot hmem
    cases hs
    exact hloads
  · obtain ⟨_, _, _, hs⟩ := mem_shellStages hmem
    cases hs
  · obtain ⟨_, _, _, hs⟩ := mem_kernelLogStages hlog (.inl hmem)
    cases hs
  · cases hmem
  · obtain ⟨_, _, hs⟩ := List.mem_map.1 hmem
    cases hs
  · obtain ⟨_, _, _, hs⟩ := mem_kernelLogStages hlog (.inr hmem)
    cases hs

end Test

namespace Stage

variable {δ : Type} [Bench δ] [Transport δ] {target : Target δ} {b : Body δ} {timeout : Span}

/-- A loader that is missing is not missed, if no application is to be loaded without one. -/
theorem run_of_loader {loader : Loader δ} {stage : Stage}
    (h : ∀ apps, stage = .bootloader apps → apps = [] ∨ target.loader.isSome = true) :
    stage.run { target with loader := some (target.loader.getD loader) } b timeout =
      stage.run target b timeout := by
  cases stage with
  | bootloader apps =>
    rcases h apps rfl with rfl | hsome
    · rfl
    · obtain ⟨l, hl⟩ := Option.isSome_iff_exists.1 hsome
      unfold run
      rw [hl]
      rfl
  | _ => rfl

theorem drive_congr {target' : Target δ} {stages : List Stage}
    (h : ∀ stage ∈ stages, stage.run target' b timeout = stage.run target b timeout) :
    drive target' b timeout stages = drive target b timeout stages := by
  have hall : runAll target' b timeout stages = runAll target b timeout stages := by
    induction stages with
    | nil => rfl
    | cons stage rest ih =>
      funext t
      unfold runAll
      rw [h stage List.mem_cons_self, ih fun s hs => h s (List.mem_cons_of_mem _ hs)]
  unfold drive
  rw [hall]

/-- What the run of a test's stages comes to, told by its legs. -/
structure Course (target : Target δ) (b : Body δ) (timeout : Span) (stages : List Stage)
    (s : Session δ) (legs : List (Leg δ)) : Prop where
  /-- They are run in order, each on what the one before has left, up to the first that fails or stops
  the test. -/
  told : Legs target b timeout stages ⟨s, {}⟩ legs
  /-- The last of them decides. -/
  result : drive target b timeout stages s = conclusion ⟨s, {}⟩ legs
  /-- The body is run at most once. -/
  body_count : (legs.map (·.stage)).count .body ≤ 1
  /-- It is run after all the stages before it, and they have gone on; it finds a verdict that has only
  begun. -/
  body_after : ∀ front l back, legs = front ++ l :: back → l.stage = .body →
    (∃ rest, stages = front.map (·.stage) ++ .body :: rest) ∧ (∀ q ∈ front, q.outcome = .ok true) ∧
      l.start.verdict = ({} : Verdict)
  /-- No other stage runs it: they are the same with any other body of that command. -/
  body_only : ∀ l ∈ legs, l.stage ≠ .body → ∀ b' : Body δ, b'.command = b.command →
    l.stage.run target b' timeout l.start = (l.outcome, l.finish)
  fatal : ∀ e, (drive target b timeout stages s).1 = .error e → e.isFatal = true
  /-- The test passed if all stages were run, without an error, and the body left a passed verdict of
  which no part failed. -/
  passed : (∃ v, (drive target b timeout stages s).1 = .ok v ∧ v.status = .ok) ↔
    legs.map (·.stage) = stages ∧ (∀ l ∈ legs, ∃ goesOn, l.outcome = .ok goesOn) ∧
      ∃ l u, l ∈ legs ∧ l.stage = .body ∧ b.run timeout l.start = (.ok (), u) ∧
        u.verdict.status = .ok ∧ ∀ p ∈ u.verdict.parts, p.status ≠ .fail
  /-- A stage that failed fails the test, and says whether it came to the body. -/
  failed : ∀ l e, l ∈ legs → l.outcome = .error e → e.isFatal = false →
    ∃ v, (drive target b timeout stages s).1 = .ok v ∧ v.status = .fail ∧ v.message = e.message ∧
      v.stage = some (if .body ∈ legs.map (·.stage) then .run else .flash)
  /-- No loader is missed. -/
  loader : ∀ loader : Loader δ,
    drive { target with loader := some (target.loader.getD loader) } b timeout stages =
      drive target b timeout stages

section

variable {front back stages : List Stage} {s : Session δ} {legs : List (Leg δ)}

theorem Legs.outcome_of_last (h : Legs target b timeout stages ⟨s, {}⟩ legs) {l : Leg δ} {e : Error}
    (hl : l ∈ legs) (he : l.outcome = .error e) : legs.getLast? = some l := by
  obtain ⟨pre, post, rfl⟩ := List.append_of_mem hl
  cases post with
  | nil => exact List.getLast?_concat
  | cons q post =>
    have hlegs : pre ++ l :: q :: post = (pre ++ [l]) ++ q :: post := by simp
    have := h.outcome_of_front hlegs l (by simp)
    rw [he] at this
    cases this

theorem Legs.outcome_eq_true (h : Legs target b timeout stages ⟨s, {}⟩ legs) {l : Leg δ} {goesOn : Bool}
    (hl : l ∈ legs) (hbody : l.stage ≠ .body) (hok : l.outcome = .ok goesOn) : l.outcome = .ok true := by
  have hrun := h.run_eq l hl
  obtain ⟨x, hx, hgoesOn⟩ := run_eq_onSession target b timeout hbody
  rw [hx] at hrun
  obtain ⟨s', hs, -⟩ := Act.zoom_eq_iff.1 hrun
  rw [hok] at hs ⊢
  cases goesOn with
  | false => exact absurd hs (hgoesOn _ _)
  | true => rfl

omit [Transport δ] in
/-- A leg concludes with a passed verdict if it left one and did not fail. -/
theorem Leg.passed_iff {l : Leg δ} : (∃ v, l.conclusion.1 = .ok v ∧ v.status = .ok) ↔
    (∃ goesOn, l.outcome = .ok goesOn) ∧ l.finish.verdict.status = .ok := by
  unfold Leg.conclusion
  rcases hx : l.outcome with e | goesOn
  · refine iff_of_false ?_ fun ⟨⟨_, h⟩, _⟩ => nomatch h
    rintro ⟨v, hv, hok⟩
    by_cases hfatal : e.isFatal = true
    · simp only [if_pos hfatal] at hv
      cases hv
    · simp only [if_neg hfatal] at hv
      cases hv
      cases hok
  · refine ⟨fun ⟨v, hv, hok⟩ => ⟨⟨goesOn, rfl⟩, ?_⟩, fun ⟨_, hok⟩ => ⟨_, rfl, hok⟩⟩
    cases hv
    exact hok

omit [Transport δ] in
theorem Leg.fatal_of_conclusion {l : Leg δ} {e : Error} (h : l.conclusion.1 = .error e) :
    e.isFatal = true := by
  unfold Leg.conclusion at h
  rcases hx : l.outcome with e' | goesOn <;> simp only [hx] at h
  · by_cases hfatal : e'.isFatal = true
    · rw [if_pos hfatal] at h
      exact Except.error.inj h ▸ hfatal
    · rw [if_neg hfatal] at h
      cases h
  · cases h

theorem drive_of_last (h : Legs target b timeout stages ⟨s, {}⟩ legs) {l : Leg δ}
    (hl : legs.getLast? = some l) : drive target b timeout stages s = l.conclusion := by
  rw [drive_eq_conclusion h]
  unfold conclusion
  rw [hl]

/-- What comes after the body leaves its verdict as it is, and goes on unless it fails. -/
theorem Legs.last_after_body {pre post : List (Leg δ)} {l : Leg δ}
    (h : Legs target b timeout stages ⟨s, {}⟩ (pre ++ l :: post)) (hgo : l.outcome = .ok true)
    (hrest : Legs target b timeout back l.finish post) (hback : .body ∉ back) :
    ∃ q, (pre ++ l :: post).getLast? = some q ∧ q.finish.verdict = l.finish.verdict ∧
      ∀ goesOn, q.outcome = .ok goesOn → q.outcome = .ok true := by
  have hpost : ∀ p ∈ post, p.stage ≠ .body := fun p hp hs =>
    hback (hrest.stages_prefix.subset (List.mem_map.2 ⟨p, hp, hs⟩))
  obtain ⟨q, hq⟩ : ∃ q, (l :: post).getLast? = some q := ⟨_, List.getLast?_cons⟩
  refine ⟨q, by rw [List.getLast?_append, hq, Option.some_or], ?_⟩
  rcases List.mem_cons.1 (List.mem_of_getLast? hq) with rfl | hmem
  · exact ⟨rfl, fun _ _ => hgo⟩
  · exact ⟨hrest.verdict_of_front (List.append_nil _).symm hpost q hmem, fun goesOn =>
      h.outcome_eq_true (List.mem_append_right _ (List.mem_cons_of_mem _ hmem)) (hpost q hmem)⟩

theorem Legs.passed_iff (h : Legs target b timeout (front ++ .body :: back) ⟨s, {}⟩ legs)
    (hfront : .body ∉ front) (hback : .body ∉ back) :
    (∃ v, (drive target b timeout (front ++ .body :: back) s).1 = .ok v ∧ v.status = .ok) ↔
      legs.map (·.stage) = front ++ .body :: back ∧ (∀ l ∈ legs, ∃ goesOn, l.outcome = .ok goesOn) ∧
        ∃ l u, l ∈ legs ∧ l.stage = .body ∧ b.run timeout l.start = (.ok (), u) ∧
          u.verdict.status = .ok ∧ ∀ p ∈ u.verdict.parts, p.status ≠ .fail := by
  rcases h.around hfront with ⟨-, l, e, hlast, he⟩ | ⟨pre, l, post, rfl, rfl, hbody, hpre, hpost⟩
  · -- broken off before the body
    rw [drive_of_last h hlast, Leg.passed_iff, he]
    refine iff_of_false (fun ⟨⟨_, h⟩, _⟩ => nomatch h) fun ⟨_, hall, _⟩ => ?_
    obtain ⟨goesOn, hl⟩ := hall l (List.mem_of_getLast? hlast)
    cases he.symm.trans hl
  have hrun := h.run_eq l (by simp)
  rw [hbody] at hrun
  rcases hpost with ⟨hstop, rfl⟩ | ⟨hgo, hrest⟩
  · -- ended with the body
    rw [drive_of_last h List.getLast?_concat, Leg.passed_iff]
    constructor
    · rintro ⟨⟨_ | _, hl⟩, hok⟩
      · rw [hl] at hrun
        exact absurd hok (status_of_runBody_false hrun)
      · exact absurd hl hstop
    · rintro ⟨-, -, l', u, hmem, hbody', hu, hstatus, hparts⟩
      rcases List.mem_append.1 hmem with hmem | hmem
      · exact absurd (List.mem_map.2 ⟨l', hmem, hbody'⟩) hfront
      · obtain rfl := List.mem_singleton.1 hmem
        have hgo := runBody_ok_true_iff.2 ⟨u, hu, hstatus, hparts, rfl⟩
        exact absurd (congrArg Prod.fst (hrun.symm.trans hgo)) hstop
  · -- gone on after the body
    rw [hgo] at hrun
    obtain ⟨u, hu, hstatus, hparts, hfinish⟩ := runBody_ok_true_iff.1 hrun
    have hfolded : l.finish.verdict.status = .ok := by
      rw [hfinish]
      exact (Verdict.foldParts_status _).2 ⟨hstatus, hparts⟩
    obtain ⟨q, hlast, hverdict, hgoesOn⟩ := h.last_after_body hgo hrest hback
    rw [drive_of_last h hlast, Leg.passed_iff, hverdict]
    constructor
    · rintro ⟨⟨goesOn, hq⟩, -⟩
      have hqtrue := hgoesOn goesOn hq
      refine ⟨h.stages_eq_of_last fun q' hq' => ?_, fun p hp => ?_, l, u, by simp, hbody, hu, hstatus,
        hparts⟩
      · obtain rfl := Option.some.inj (hlast.symm.trans hq')
        exact hqtrue
      · rcases hx : p.outcome with e | goesOn
        · obtain rfl := Option.some.inj (hlast.symm.trans (h.outcome_of_last hp hx))
          cases hx.symm.trans hqtrue
        · exact ⟨goesOn, rfl⟩
    · rintro ⟨-, hall, -⟩
      exact ⟨hall q (List.mem_of_getLast? hlast), hfolded⟩

theorem Legs.failed (h : Legs target b timeout (front ++ .body :: back) ⟨s, {}⟩ legs)
    (hfront : ∀ stage ∈ front, stage ≠ .body ∧ stage.failureStage = .flash)
    (hback : ∀ stage ∈ back, stage ≠ .body ∧ stage.failureStage = .run) {l : Leg δ} {e : Error}
    (hl : l ∈ legs) (he : l.outcome = .error e) (hfatal : e.isFatal = false) :
    ∃ v, (drive target b timeout (front ++ .body :: back) s).1 = .ok v ∧ v.status = .fail ∧
      v.message = e.message ∧
      v.stage = some (if .body ∈ legs.map (·.stage) then .run else .flash) := by
  have hlast := h.outcome_of_last hl he
  have hstage : l.stage.failureStage = if .body ∈ legs.map (·.stage) then .run else .flash := by
    rcases h.around fun hmem => (hfront _ hmem).1 rfl with
      ⟨hbefore, -⟩ | ⟨pre, l', post, rfl, rfl, hbody, hpre, hpost⟩
    · have hmem : ∀ q ∈ legs, q.stage ∈ front := fun q hq =>
        hbefore.stages_prefix.subset (List.mem_map.2 ⟨q, hq, rfl⟩)
      rw [if_neg, (hfront _ (hmem l hl)).2]
      intro hin
      obtain ⟨q, hq, hs⟩ := List.mem_map.1 hin
      exact (hfront _ (hmem q hq)).1 hs
    · rw [if_pos (List.mem_map.2 ⟨l', by simp, hbody⟩)]
      rcases List.mem_append.1 hl with hl | hl
      · have := hpre l hl
        rw [he] at this
        cases this
      · rcases List.mem_cons.1 hl with rfl | hl
        · rw [hbody]
          rfl
        · rcases hpost with ⟨-, rfl⟩ | ⟨-, hrest⟩
          · cases hl
          · exact (hback _ (hrest.stages_prefix.subset (List.mem_map.2 ⟨l, hl, rfl⟩))).2
  rw [drive_of_last h hlast]
  refine ⟨l.finish.verdict.fail l.stage.failureStage e.message, ?_, rfl, rfl, congrArg some hstage⟩
  unfold Leg.conclusion
  simp only [he, hfatal, Bool.false_eq_true, if_false]

end
end Stage

/-- Every run of a test's stages takes this course, with any body and on any device. -/
theorem Test.course {δ : Type} [Bench δ] [Transport δ] {t : Test δ} {target : Target δ}
    {stages : List Stage} (h : t.stages target = .ok stages) (b : Body δ) (timeout : Span)
    (s : Session δ) : ∃ legs, Stage.Course target b timeout stages s legs := by
  obtain ⟨legs, hlegs⟩ := Stage.exists_legs target b timeout stages ⟨s, {}⟩
  have hloads (apps : List AppSpec) (hmem : .bootloader apps ∈ stages) :
      apps = [] ∨ target.loader.isSome = true := loader_of_mem_stages h hmem
  obtain ⟨front, back, rfl, hfront, hback⟩ := stages_split h
  have hnotFront : Stage.body ∉ front := fun hmem => (hfront _ hmem).1 rfl
  have hnotBack : Stage.body ∉ back := fun hmem => (hback _ hmem).1 rfl
  have hcount : (legs.map (·.stage)).count .body ≤ 1 := by
    have hle := hlegs.stages_prefix.sublist.count_le Stage.body
    rwa [List.count_append, List.count_cons_self, List.count_eq_zero.2 hnotFront,
      List.count_eq_zero.2 hnotBack] at hle
  refine ⟨legs, hlegs, Stage.drive_eq_conclusion hlegs, hcount, ?_, ?_, ?_,
    hlegs.passed_iff hnotFront hnotBack, fun l e => hlegs.failed hfront hback,
    fun loader => Stage.drive_congr fun stage hmem =>
      Stage.run_of_loader fun apps hs => hloads apps (hs ▸ hmem)⟩
  · rintro pre l post rfl hl
    obtain ⟨rest, hrest⟩ := hlegs.stages_prefix
    rw [List.map_append, List.map_cons, hl] at hrest hcount
    rw [List.count_append, List.count_cons_self] at hcount
    have hpre : ∀ q ∈ pre, q.stage ≠ .body := fun q hq hs =>
      List.count_eq_zero.1 (show (pre.map (·.stage)).count .body = 0 by omega)
        (List.mem_map.2 ⟨q, hq, hs⟩)
    refine ⟨⟨post.map (·.stage) ++ rest, by simpa using hrest.symm⟩, hlegs.outcome_of_front rfl, ?_⟩
    rw [hlegs.start_eq rfl]
    rcases hlast : pre.getLast? with _ | q
    · rfl
    · exact hlegs.verdict_of_front rfl hpre q (List.mem_of_getLast? hlast)
  · intro l hl hbody b' hcommand
    rw [Stage.run_of_command_eq hbody hcommand]
    exact hlegs.run_eq l hl
  · intro e he
    rw [Stage.drive_eq_conclusion hlegs] at he
    unfold Stage.conclusion at he
    rcases hlast : legs.getLast? with _ | l <;> rw [hlast] at he
    · cases he
    · exact Stage.Leg.fatal_of_conclusion he

/-- A board at its shell, whose kernel can be silenced. -/
def silencedBench : Sim.World :=
  { board := {
      incoming := [.data (Bytes.ofText "(psh)% ")]
      rules := [{
        trigger := Bytes.ofText "klog off\r"
        reply := [⟨.data (Bytes.ofText "klog off\r\n(psh)% "), .zero⟩]
        repeats := false }] } }

def silencedTarget : Target Sim.World where
  config := {
    name := "board"
    console := .serial { port := "tty0", baud := 115200 }
    kernelLogOff := some "klog off"
    kernelLogOn := some "klog on" }
  rebooter := { name := "none", reboot := fun _ => return () }

/-- A test that does not pass in its body. -/
def silencedTest : Test Sim.World where
  name := "silenced"
  shouldReboot := false
  shell := some {}
  body := { run := fun _ => Trial.judge (Verdict.fail .run "no good") }
  suppressKernelLog := true

/-- The test ends with its body: no prompt is waited for after it, and the kernel stays silenced. -/
theorem Test.course_silenced :
    ∃ stages legs, silencedTest.stages silencedTarget = .ok stages ∧
      Stage.Course silencedTarget silencedTest.body silencedTest.timeout stages
        (.ofDevice silencedBench) legs ∧
      (Stage.drive silencedTarget silencedTest.body silencedTest.timeout stages
        (.ofDevice silencedBench)).1 = .ok (.failed (some .run) "no good") ∧
      (Stage.drive silencedTarget silencedTest.body silencedTest.timeout stages
        (.ofDevice silencedBench)).2.device.board.tally.written = Bytes.ofText "\rklog off\r" := by
  have hstages : silencedTest.stages silencedTarget = .ok [.shell "(psh)% " (.ofSeconds 90) true,
      .kernelLog "klog off" "(psh)% " false, .body, .closingPrompt "(psh)% ",
      .kernelLog "klog on" "(psh)% " true] := rfl
  obtain ⟨legs, hcourse⟩ := Test.course hstages silencedTest.body silencedTest.timeout
    (.ofDevice silencedBench)
  refine ⟨_, legs, hstages, hcourse, ?_, ?_⟩
  · cbv
  · cbv

end BoardBench
