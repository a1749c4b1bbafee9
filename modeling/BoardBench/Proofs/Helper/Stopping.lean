import BoardBench.Proofs.Helper.Dated
import BoardBench.Proofs.Helper.Life
import BoardBench.Proofs.Helper.Mortal
import Mathlib

/-!
# Stopping a helper

A stop asks the process to end, and kills it if it was not seen to end in the time that it has
(`Helper.stop_goes`). A stop is made once in the life of a helper, whatever is asked of the helper and
however its process behaves (`Helper.Request.performAll_escalates_once`).
-/

namespace BoardBench

variable {δ : Type} [Bench δ]

open Diary

/-- The process was asked to stop and seen to end. Or it was asked to, was not seen to end in its time,
was killed after that, and then seen to end. -/
inductive Stopping (pid : Nat) (timeout : Span) : Diary → Prop
  | heeded {v u wait status} : Stopping pid timeout
      [(v, .signalled pid .term), (u, .awaited pid wait (.ok (some status)))]
  | forced {v u wait w x status} : v + timeout.nanos ≤ w → Stopping pid timeout
      [(v, .signalled pid .term), (u, .awaited pid wait (.ok none)), (w, .signalled pid .kill),
        (x, .awaited pid .max (.ok (some status)))]

namespace Helper

variable {p : ExitProbe δ} {P : δ → Prop}

/-- The process is seen to have ended. -/
def Ended (p : ExitProbe δ) (status : ExitStatus) (t : Tended (Dated δ)) : Prop :=
  (p.look t.machine.device).1 = some status

/-- Entries were added to the diary and output was read; each kill was counted. -/
structure Goes (p : ExitProbe δ) (P : δ → Prop) (t : Tended (Dated δ)) (k : Diary)
    (t' : Tended (Dated δ)) : Prop where
  diary : t'.machine.diary = t.machine.diary ++ k
  helper : ∃ reader reading, t'.helper = { t.helper with
    reader, reading, forcedKills := t.helper.forcedKills + kills k }
  follows : p.Follows P t.machine.device t'.machine.device

variable {t t' t'' : Tended (Dated δ)} {k l : Diary}

namespace Goes

theorem refl (ht : P t.machine.device) : Goes p P t [] t :=
  ⟨(List.append_nil _).symm, ⟨t.helper.reader, t.helper.reading, rfl⟩, .refl ht⟩

theorem trans (h : Goes p P t k t') (h' : Goes p P t' l t'') : Goes p P t (k ++ l) t'' := by
  obtain ⟨_, _, hhelper⟩ := h.helper
  obtain ⟨reader, reading, hhelper'⟩ := h'.helper
  refine ⟨by rw [h'.diary, h.diary, List.append_assoc], ⟨reader, reading, ?_⟩,
    h.follows.trans h'.follows⟩
  rw [hhelper', hhelper, kills_append, Nat.add_assoc]

theorem pid (h : Goes p P t k t') : t'.helper.pid = t.helper.pid := by
  obtain ⟨_, _, hhelper⟩ := h.helper
  rw [hhelper]

theorem running (h : Goes p P t k t') : t'.helper.running = t.helper.running := by
  obtain ⟨_, _, hhelper⟩ := h.helper
  rw [hhelper]

theorem stopTimeout (h : Goes p P t k t') : t'.helper.stopTimeout = t.helper.stopTimeout := by
  obtain ⟨_, _, hhelper⟩ := h.helper
  rw [hhelper]

theorem forcedKills (h : Goes p P t k t') :
    t'.helper.forcedKills = t.helper.forcedKills + kills k := by
  obtain ⟨_, _, hhelper⟩ := h.helper
  rw [hhelper]

theorem holds (h : Goes p P t k t') : P t'.machine.device := h.follows.holds

theorem ended (h : Goes p P t k t') {status : ExitStatus} (ht : Ended p status t) : Ended p status t' :=
  h.follows.ended status ht

end Goes

variable [Processes δ] {pid : Nat} (hm : Processes.Mortal pid p P)

include hm

/-! ## Steps -/

theorem readUntil_goes (forMarker : Bool) (deadline : Nat) (h : Helper) (hpid : h.pid = pid)
    (d : Dated δ) (hd : P d.device) :
    Goes p P ⟨h, d⟩ [] ⟨(readUntil forMarker deadline h d).2.1, (readUntil forMarker deadline h d).2.2⟩ := by
  -- one piece of output that was waited for
  have step {h h' : Helper} {d d' : Dated δ} {wait : Span} {x : Output} (hpid : h.pid = pid)
      (hd : P d.device) (houtput : Processes.awaitOutput h.pid wait d = (x, d'))
      (hhelper : ∃ reader reading, h' = { h with reader, reading }) : Goes p P ⟨h, d⟩ [] ⟨h', d'⟩ := by
    obtain ⟨hdevice, hdiary⟩ := Dated.on_eq_iff.1 houtput
    have hfollows := hm.awaitOutput wait d.device hd
    rw [hpid] at hdevice
    rw [hdevice] at hfollows
    exact ⟨by rw [hdiary, List.append_nil], hhelper, hfollows⟩
  fun_induction readUntil forMarker deadline h d with
  | case1 h d hlate => exact .refl hd
  | case2 h d hlate hdone => exact .refl hd
  | case3 h d hlate hdone bytes d' houtput h' hready => exact step hpid hd houtput ⟨_, _, rfl⟩
  | case4 h d hlate hdone bytes d' houtput h' hready ih =>
    have hfirst : Goes p P ⟨h, d⟩ [] ⟨h', d'⟩ := step hpid hd houtput ⟨_, _, rfl⟩
    exact hfirst.trans (ih hpid hfirst.holds)
  | case5 h d hlate hdone d' houtput => exact step hpid hd houtput ⟨_, _, rfl⟩
  | case6 h d hlate hdone d' houtput => exact step hpid hd houtput ⟨_, _, rfl⟩

theorem join_goes (wait : Span) (hpid : t.helper.pid = pid) (ht : P t.machine.device) :
    ∃ t', join wait t = (.ok (), t') ∧ Goes p P t [] t' :=
  ⟨_, rfl, readUntil_goes hm false _ t.helper hpid t.machine ht⟩

theorem output_goes (hpid : t.helper.pid = pid) (ht : P t.machine.device) :
    ∃ text t', output t = (.ok text, t') ∧ Goes p P t [] t' := by
  have hcatch := readUntil_goes hm false (Bench.now t.machine) t.helper hpid t.machine ht
  exact ⟨_, _, rfl, hcatch⟩

theorem note_goes (level : Level) (text : String) (ht : P t.machine.device) :
    ∃ t', note level text t = (.ok (), t') ∧ Goes p P t [] t' ∧
      Bench.now t.machine ≤ Bench.now t'.machine :=
  ⟨_, rfl, ⟨(List.append_nil _).symm, ⟨_, _, rfl⟩, hm.note level text _ ht⟩, hm.now_note level text _⟩

theorem term_goes (hpid : t.helper.pid = pid) (ht : P t.machine.device) :
    ∃ t', sendSignal .term t = (.ok (), t') ∧
      Goes p P t [(Bench.now t.machine, .signalled pid .term)] t' := by
  subst hpid
  exact ⟨_, rfl, rfl, ⟨_, _, rfl⟩, hm.signal .term _ ht⟩

theorem awaitStatus_goes (wait : Span) (hpid : t.helper.pid = pid) (ht : P t.machine.device) :
    ∃ answer t', awaitStatus wait t = (.ok answer, t') ∧
      Goes p P t [(Bench.now t.machine, .awaited pid wait (.ok answer))] t' ∧
      answer = (p.waitFor wait t.machine.device).1 ∧
      (∀ status, answer = some status → Ended p status t') ∧
      (∀ status, Ended p status t → answer = some status) ∧
      (answer = none → Bench.now t.machine + wait.nanos ≤ Bench.now t'.machine) := by
  subst hpid
  rcases hawait : Processes.awaitExit t.helper.pid wait t.machine with ⟨given, c⟩
  obtain ⟨hdevice, hdiary⟩ := Dated.record_eq_iff.1 hawait
  obtain ⟨answer, rfl, hwait⟩ :
      ∃ answer, given = .ok answer ∧ p.waitFor wait t.machine.device = (answer, c.device) := by
    obtain ⟨rfl, hc⟩ := Prod.mk.inj ((hm.awaitExit wait _ ht).symm.trans hdevice)
    exact ⟨_, rfl, Prod.ext rfl hc⟩
  have hfollows : p.Follows P t.machine.device (p.waitFor wait t.machine.device).2 :=
    hm.toSteady.waitSince wait _ _ ht
  rw [hwait] at hfollows
  refine ⟨answer, { t with machine := c }, ?_, ⟨hdiary, ⟨_, _, rfl⟩, hfollows⟩,
    (congrArg Prod.fst hwait).symm, ?seen, ?ended, ?late⟩
  · unfold awaitStatus
    rw [hawait]
    rfl
  case seen =>
    rintro status rfl
    exact hm.toSteady.look_of_waitSince ht hwait
  case ended =>
    intro status hended
    have hlook : p.look t.machine.device = (some status, (p.look t.machine.device).2) :=
      Prod.ext hended rfl
    exact congrArg Prod.fst (hwait.symm.trans (ExitProbe.waitSince_of_look hlook))
  case late =>
    rintro rfl
    have hlate := ExitProbe.le_of_waitSince hwait (Nat.le_refl _)
    exact hlate

/-! ## The stop -/

/-- A process that was not seen to end is killed, and then is. -/
theorem forceStop_goes (h : Helper) (hpid : t.helper.pid = pid) (ht : P t.machine.device) :
    ∃ status u x t', forceStop h t = (.ok (some status), t') ∧ Bench.now t.machine ≤ u ∧
      Goes p P t [(u, .signalled pid .kill), (x, .awaited pid .max (.ok (some status)))] t' := by
  unfold forceStop
  obtain ⟨t₁, hnote, ht₁, hnow⟩ := note_goes hm .warn (h.program ++ " (pid " ++ toString h.pid ++
    ") ignored SIGTERM for " ++ h.stopTimeout.text ++ ", killing it") ht
  have hpid₁ : t₁.helper.pid = pid := ht₁.pid.trans hpid
  obtain ⟨status, d, hdead⟩ := hm.killed t₁.machine.device ht₁.holds
  let t₂ : Tended (Dated δ) := { t₁ with machine := Processes.signal t₁.helper.pid .kill t₁.machine }
  have hsignal : sendSignal .kill t₁ = (.ok (), t₂) := rfl
  rw [Act.bind_ok hnote, Act.bind_ok hsignal, Act.change_bind]
  generalize ht₃ : ({ t₂ with helper := { t₂.helper with forcedKills := t₂.helper.forcedKills + 1 } } :
    Tended (Dated δ)) = t₃
  have hkill : Goes p P t₁ [(Bench.now t₁.machine, .signalled pid .kill)] t₃ := by
    subst ht₃ hpid₁
    exact ⟨rfl, ⟨_, _, rfl⟩, hm.signal .kill _ ht₁.holds⟩
  have hdevice : t₃.machine.device = Processes.signal pid .kill t₁.machine.device := by
    subst ht₃ hpid₁
    rfl
  obtain ⟨answer, t₄, hwait, ht₄, hanswer, -⟩ :=
    awaitStatus_goes hm .max (hkill.pid.trans hpid₁) hkill.holds
  obtain rfl : answer = some status := by rw [hanswer, hdevice, hdead]
  obtain ⟨t₅, hjoin, ht₅⟩ := join_goes hm h.stopTimeout
    (ht₄.pid.trans (hkill.pid.trans hpid₁)) ht₄.holds
  rw [Act.bind_ok hwait, Act.bind_ok hjoin, Act.state_bind]
  have hall := ((ht₁.trans hkill).trans ht₄).trans ht₅
  by_cases hreading : t₅.helper.reading = true
  · rw [if_pos hreading]
    obtain ⟨t₆, hlast, ht₆, -⟩ := note_goes hm .warn
      (h.program ++ " output reader did not finish, detaching it") ht₅.holds
    rw [Act.bind_ok hlast]
    exact ⟨status, _, _, t₆, rfl, hnow, hall.trans ht₆⟩
  · rw [if_neg hreading]
    exact ⟨status, _, _, t₅, rfl, hnow, hall⟩

/-- A stop is made in one of its two ways, and the process is not killed if it was over before. -/
theorem stop_goes (hpid : t.helper.pid = pid) (ht : P t.machine.device) :
    ∃ status k t', stop t = (.ok (some status), t') ∧ Goes p P t k t' ∧
      Stopping pid t.helper.stopTimeout k ∧ ∀ status, Ended p status t → kills k = 0 := by
  obtain ⟨t₁, hterm, ht₁⟩ := term_goes hm hpid ht
  obtain ⟨t₂, hjoin, ht₂⟩ := join_goes hm t.helper.stopTimeout (ht₁.pid.trans hpid) ht₁.holds
  have hbefore := ht₁.trans ht₂
  obtain ⟨answer, t₃, hwait, ht₃, -, -, hended, hlate⟩ := awaitStatus_goes hm
    ⟨max (Bench.now t.machine + t.helper.stopTimeout.nanos - Bench.now t₂.machine) exitGrace.nanos⟩
    (hbefore.pid.trans hpid) ht₂.holds
  unfold stop
  rw [Act.state_bind]
  dsimp only
  rw [Act.bind_ok hterm, Act.bind_ok hjoin, Act.state_bind, Act.bind_ok hwait]
  have hall := hbefore.trans ht₃
  cases answer with
  | some status => exact ⟨status, _, t₃, rfl, hall, .heeded, fun _ _ => rfl⟩
  | none =>
    obtain ⟨status, u, x, t', hforce, hu, ht'⟩ := forceStop_goes hm t.helper
      (hall.pid.trans hpid) hall.holds
    have hwaited := hlate rfl
    dsimp only at hwaited
    refine ⟨status, _, t', hforce, hall.trans ht', .forced (by omega), fun status h => ?_⟩
    cases hended status (hbefore.ended h)

/-- The helper, no longer to be stopped. -/
def released (t : Tended (Dated δ)) : Tended (Dated δ) :=
  { t with helper := { t.helper with running := false } }

/-- What the process had come to before it was asked to stop is the error of a kill, if it was bad. -/
theorem kill_goes (hpid : t.helper.pid = pid) (ht : P t.machine.device)
    (hrunning : t.helper.running = true) :
    ∃ x early k t', kill t = (x, t') ∧
      Goes p P (released t) ((Bench.now t.machine, .awaited pid .zero (.ok early)) :: k) t' ∧
      Stopping pid t.helper.stopTimeout k ∧
      ((∃ e, x = .error e) ↔ ∃ status, early = some status ∧ status.isSuccess = false) ∧
      (∀ status, Ended p status t ∨ early = some status → kills k = 0) := by
  have hrelease : release t = (.ok (), released t) := rfl
  obtain ⟨early, t₂, hwait, ht₂, -, hseen, -⟩ :=
    awaitStatus_goes hm (t := released t) .zero hpid ht
  obtain ⟨status, k, t₃, hstop, ht₃, hstopping, hspared⟩ := stop_goes hm (ht₂.pid.trans hpid) ht₂.holds
  rw [show t₂.helper.stopTimeout = t.helper.stopTimeout from ht₂.stopTimeout] at hstopping
  have hall := ht₂.trans ht₃
  have hspare : ∀ status, Ended p status t ∨ early = some status → kills k = 0 := by
    rintro status (h | h)
    · exact hspared status (ht₂.ended h)
    · exact hspared status (hseen status h)
  unfold kill
  rw [Act.state_bind]
  show ∃ x early k t', (if t.helper.running = true then _ else _ : Act _ Unit) t = (x, t') ∧ _
  rw [if_pos hrunning, Act.bind_ok hrelease, Act.bind_ok hwait, Act.bind_ok hstop]
  cases early with
  | none => exact ⟨_, none, k, t₃, rfl, hall, hstopping, by simp, hspare⟩
  | some status =>
    by_cases hsuccess : status.isSuccess = true
    · show ∃ x early k t', (if status.isSuccess = true then _ else _ : Act _ Unit) t₃ = (x, t') ∧ _
      rw [if_pos hsuccess]
      exact ⟨_, some status, k, t₃, rfl, hall, hstopping, by simp [hsuccess], hspare⟩
    · obtain ⟨text, t₄, houtput, ht₄⟩ := output_goes hm (hall.pid.trans hpid) hall.holds
      show ∃ x early k t', (if status.isSuccess = true then _ else _ : Act _ Unit) t₃ = (x, t') ∧ _
      rw [if_neg hsuccess, Act.bind_ok houtput]
      have hend := hall.trans ht₄
      rw [List.append_nil] at hend
      exact ⟨_, some status, k, t₄, rfl, hend, hstopping, by simp [hsuccess], hspare⟩

theorem drop_goes (hpid : t.helper.pid = pid) (ht : P t.machine.device)
    (hrunning : t.helper.running = true) :
    ∃ k, Goes p P (released t) k (drop t) ∧
      Stopping pid t.helper.stopTimeout k ∧ ∀ status, Ended p status t → kills k = 0 := by
  have hrelease : release t = (.ok (), released t) := rfl
  obtain ⟨status, k, t₂, hstop, ht₂, hstopping, hspared⟩ := stop_goes hm (t := released t) hpid ht
  unfold drop killQuietly
  rw [Act.state_bind]
  show ∃ k, Goes p P _ k ((if t.helper.running = true then _ else _ : Act _ _) t).2 ∧ _
  have hattempt : Act.attempt stop (released t) = (.ok (.ok (some status)), t₂) := by
    unfold Act.attempt
    rw [hstop]
  rw [if_pos hrunning, Act.bind_ok hrelease, Act.bind_ok hattempt]
  exact ⟨k, ht₂, hstopping, hspared⟩

/-! ## A helper's life -/

omit hm

theorem drop_released {t : Tended δ} (h : t.helper.running = false) : drop t = t := by
  unfold drop killQuietly
  rw [Act.state_bind, h]
  rfl

namespace Request

/-- Of a helper that was stopped there is nothing left to be done. -/
theorem performAll_released (requests : List Request) {t : Tended δ} (h : t.helper.running = false) :
    performAll requests t = (requests.map fun _ => .ok none, t) := by
  induction requests with
  | nil => rfl
  | cons request requests ih =>
    have hperform : request.perform t = (.ok none, t) := by
      cases request with
      | waitExit wait =>
        rw [perform, Helper.waitExit, Act.state_bind, h]
        rfl
      | kill =>
        rw [perform, Act.map_apply, Helper.kill, Act.state_bind, h]
        rfl
    rw [performAll_cons, hperform, ih]
    rfl

include hm

/-- Until it is stopped the end of the process is looked for, and nothing else done. -/
theorem performAll_looks (requests : List Request) (hwaits : .kill ∉ requests)
    (hpid : t.helper.pid = pid) (ht : P t.machine.device) (hrunning : t.helper.running = true) :
    ∃ k, Goes p P t k (performAll requests t).2 ∧ Looks pid k ∧
      ∀ status, Saw pid status k → Ended p status (performAll requests t).2 := by
  induction requests generalizing t with
  | nil => exact ⟨[], .refl ht, .nil, fun _ ⟨_, _, hmem⟩ => absurd hmem List.not_mem_nil⟩
  | cons request requests ih =>
    cases request with
    | kill => exact absurd List.mem_cons_self hwaits
    | waitExit wait =>
      obtain ⟨answer, t₁, hwait, ht₁, -, hseen, -⟩ := awaitStatus_goes hm wait hpid ht
      have hperform : (waitExit wait).perform t = (.ok answer, t₁) := by
        rw [perform, Helper.waitExit, Act.state_bind]
        exact (congrFun (if_pos hrunning) t).trans hwait
      obtain ⟨k, hk, hlooks, hsaw⟩ := ih (fun h => hwaits (List.mem_cons_of_mem _ h))
        (ht₁.pid.trans hpid) ht₁.holds (ht₁.running.trans hrunning)
      rw [performAll_cons, hperform]
      refine ⟨_, ht₁.trans hk, (Looks.singleton _ wait (.ok answer)).append hlooks, fun status h => ?_⟩
      rcases saw_append.1 h with h | h
      · exact hk.ended (hseen status (Except.ok.inj (saw_singleton.1 h)))
      · exact hsaw status h

/-- The first kill stops the helper, and nothing is done to it after that. -/
theorem performAll_kill {front : List Request} (back : List Request) (hwaits : .kill ∉ front)
    (hpid : t.helper.pid = pid) (ht : P t.machine.device) (hrunning : t.helper.running = true) :
    let before := (performAll front t).2
    let x := Helper.kill before
    ∃ looks early course,
      (before.machine.diary = t.machine.diary ++ looks ∧ Looks pid looks) ∧
      (x.2.machine.diary =
          before.machine.diary ++ (Bench.now before.machine, .awaited pid .zero (.ok early)) :: course ∧
        Stopping pid t.helper.stopTimeout course) ∧
      ((∃ e, x.1 = .error e) ↔ ∃ status, early = some status ∧ status.isSuccess = false) ∧
      x.2.helper.forcedKills = t.helper.forcedKills + kills course ∧
      (∀ status, Saw pid status looks ∨ early = some status → kills course = 0) ∧
      performAll (front ++ .kill :: back) t =
        ((performAll front t).1 ++ x.1.map (fun _ => none) :: back.map fun _ => .ok none, x.2) ∧
      drop x.2 = x.2 := by
  obtain ⟨looks, hbefore, hlooks, hsaw⟩ := performAll_looks hm front hwaits hpid ht hrunning
  obtain ⟨r, early, course, t', hkill, ht', hstopping, hfails, hspared⟩ :=
    kill_goes hm (hbefore.pid.trans hpid) hbefore.holds (hbefore.running.trans hrunning)
  have hreleased : t'.helper.running = false := ht'.running
  intro before x
  have hx : x = (r, t') := hkill
  clear_value x
  subst hx
  have hperform : Request.kill.perform before = (r.map fun _ => none, t') := by
    rw [perform, Act.map_apply, hkill]
  rw [hbefore.stopTimeout] at hstopping
  refine ⟨looks, early, course, ⟨hbefore.diary, hlooks⟩, ⟨ht'.diary, hstopping⟩, hfails, ?_, ?_, ?_,
    drop_released hreleased⟩
  · rw [ht'.forcedKills]
    show before.helper.forcedKills + _ = _
    rw [hbefore.forcedKills, hlooks.kills_eq]
    rfl
  · rintro status (h | h)
    · exact hspared status (.inl (hsaw status h))
    · exact hspared status (.inr h)
  · rw [performAll_append, performAll_cons, hperform, performAll_released back hreleased]

omit hm

/-- Whatever is asked of a helper until it is dropped, it is stopped once, by the first kill or when it is
dropped. What was done to its process is that its end was looked for, and then one stop, with as many
kills as were counted, and none if the end had been seen. The first kill fails if it found that the
process had failed before it asked it to stop, and nothing is done after it. -/
theorem performAll_escalates_once (requests : List Request) (t : Tended δ)
    (hm : Processes.Mortal t.helper.pid p P) (ht : P t.machine) (hrunning : t.helper.running = true) :
    let pid := t.helper.pid
    let run := performAll requests t.dated
    let last := drop run.2
    (performAll requests t = (run.1, run.2.plain) ∧ drop run.2.plain = last.plain) ∧
    (∃ looks course, last.machine.diary = looks ++ course ∧ Looks pid looks ∧
      Stopping pid t.helper.stopTimeout course ∧
      last.helper.forcedKills = t.helper.forcedKills + kills course ∧
      ∀ status, Saw pid status looks → kills course = 0) ∧
    ∀ front back, requests = front ++ .kill :: back → .kill ∉ front →
      let before := (performAll front t.dated).2
      let x := Helper.kill before
      (∃ early course, x.2.machine.diary =
          before.machine.diary ++ (Bench.now before.machine, .awaited pid .zero (.ok early)) :: course ∧
        Stopping pid t.helper.stopTimeout course ∧
        ((∃ e, x.1 = .error e) ↔ ∃ status, early = some status ∧ status.isSuccess = false)) ∧
      run = ((performAll front t.dated).1 ++ x.1.map (fun _ => none) :: back.map fun _ => .ok none, x.2) ∧
      last = x.2 := by
  intro pid run last
  refine ⟨⟨performAll_plain requests t.dated, drop_plain run.2⟩, ?course, ?first⟩
  case course =>
    by_cases hkill : .kill ∈ requests
    · obtain ⟨front, back, rfl, hwaits⟩ := List.eq_append_cons_of_mem hkill
      obtain ⟨looks, early, course, ⟨hbefore, hlooks⟩, ⟨hdiary, hstopping⟩, -, hkills, hspared, hrun,
        hdrop⟩ := performAll_kill (t := t.dated) hm back hwaits rfl ht hrunning
      have hlast : last = (Helper.kill (performAll front t.dated).2).2 := by
        show drop (performAll _ t.dated).2 = _
        rw [hrun, hdrop]
      let check : Diary :=
        [(Bench.now (performAll front t.dated).2.machine, .awaited pid .zero (.ok early))]
      refine ⟨looks ++ check, course, ?_, hlooks.append (.singleton _ .zero (.ok early)), hstopping, ?_,
        fun status h => ?_⟩
      · rw [hlast, hdiary, hbefore, List.append_assoc]
        exact (List.append_assoc looks check course).symm
      · rw [hlast]
        exact hkills
      · rcases saw_append.1 h with h | h
        · exact hspared status (.inl h)
        · exact hspared status (.inr (Except.ok.inj (saw_singleton.1 h)))
    · obtain ⟨looks, hbefore, hlooks, hsaw⟩ :=
        performAll_looks (t := t.dated) hm requests hkill rfl ht hrunning
      obtain ⟨course, hcourse, hstopping, hspared⟩ :=
        drop_goes hm hbefore.pid hbefore.holds (hbefore.running.trans hrunning)
      rw [hbefore.stopTimeout] at hstopping
      refine ⟨looks, course, ?_, hlooks, hstopping, ?_, fun status h => hspared status (hsaw status h)⟩
      · rw [hcourse.diary]
        exact congrArg (· ++ course) hbefore.diary
      · rw [hcourse.forcedKills]
        exact congrArg (· + kills course) (hbefore.forcedKills.trans (by rw [hlooks.kills_eq]; rfl))
  case first =>
    rintro front back rfl hwaits
    obtain ⟨_, early, course, -, ⟨hdiary, hstopping⟩, hfails, -, -, hrun, hdrop⟩ :=
      performAll_kill (t := t.dated) hm back hwaits rfl ht hrunning
    refine ⟨⟨early, course, hdiary, hstopping, hfails⟩, hrun, ?_⟩
    show drop (performAll _ t.dated).2 = _
    rw [hrun, hdrop]

end Request
end Helper

/-- A process that does not heed the request to end is killed once. -/
theorem Helper.Request.performAll_escalates_once_stubborn :
    let t : Tended Ward :=
      ⟨{ program := "sleep", pid := 2, reader := .start [], reading := true, running := true,
         stopTimeout := .ofMillis 200, forcedKills := 0 }, { clock := 0, fate := none, heeds := none }⟩
    let requests : List Request := [.waitExit (.ofMillis 20), .kill, .kill]
    let last := Helper.drop (Request.performAll requests t.dated).2
    Processes.Mortal t.helper.pid Ward.probe (fun _ => True) ∧ t.helper.running = true ∧
      (Request.performAll requests t).1 = [.ok none, .ok none, .ok none] ∧
      ∃ looks course, last.machine.diary = looks ++ course ∧ Looks 2 looks ∧
        Stopping 2 (.ofMillis 200) course ∧ kills course = 1 := by
  intro t requests last
  have hm : Processes.Mortal t.helper.pid Ward.probe (fun _ => True) := Ward.mortal 2
  have hkills : (Helper.drop (Request.performAll requests t.dated).2).helper.forcedKills = 1 := by cbv
  have hanswers : (Request.performAll requests t).1 = [.ok none, .ok none, .ok none] := by cbv
  obtain ⟨-, ⟨looks, course, hdiary, hlooks, hstopping, hcount, -⟩, -⟩ :=
    Request.performAll_escalates_once requests t hm trivial rfl
  have hcourse : t.helper.forcedKills + kills course = 1 := hcount.symm.trans hkills
  exact ⟨hm, rfl, hanswers, looks, course, hdiary, hlooks, hstopping, (Nat.zero_add _).symm.trans hcourse⟩

end BoardBench
