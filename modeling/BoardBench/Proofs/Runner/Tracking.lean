import BoardBench.Proofs.Bootloader.InStep
import BoardBench.Runner

/-!
# Which reboots a test asks for

`Tracked δ` is a device with the reboots that were asked of its target, each with the session on which
it was asked for. A tracked test does to the device what the test does, and asks for one reboot if it
is run at all and is to reboot first, before anything else is done; else it asks for none
(`runOne_tracked`).
-/

namespace BoardBench

/-- A device with the reboots that were asked of its target. -/
structure Tracked (δ : Type) where
  device : δ
  calls : List (RebootOptions × Session δ)

variable {δ α : Type}

namespace Session

/-- The session without the list of reboots. -/
def untracked (s : Session (Tracked δ)) : Session δ := ⟨s.device.device, s.buffer, s.log, s.closed⟩

/-- The session with the list of reboots of another. -/
def retracked (s : Session δ) (t : Session (Tracked δ)) : Session (Tracked δ) :=
  ⟨⟨s.device, t.device.calls⟩, s.buffer, s.log, s.closed⟩

/-- The session from here on. -/
def tracked (s : Session δ) : Session (Tracked δ) := ⟨⟨s.device, []⟩, s.buffer, s.log, s.closed⟩

/-- The tracked session is the session, and these reboots were asked for. -/
def Tracks (calls : List (RebootOptions × Session δ)) (t : Session (Tracked δ)) (s : Session δ) : Prop :=
  s = t.untracked ∧ t.device.calls = calls

/-- An action that asks for no reboot. -/
def track (x : Act (Session δ) α) : Act (Session (Tracked δ)) α := Act.zoom untracked retracked x

end Session

/-! ## Tracked benches, targets and tests -/

instance [Bench δ] : Bench (Tracked δ) where
  now t := Bench.now t.device
  sleep span t := { t with device := Bench.sleep span t.device }
  note level text t := { t with device := Bench.note level text t.device }
  libraries := Bench.libraries δ
  now_sleep span t := Bench.now_sleep span t.device

/-- A call on the device alone. -/
def Tracked.call (x : δ → α × δ) (t : Tracked δ) : α × Tracked δ :=
  ((x t.device).1, { t with device := (x t.device).2 })

instance [Bench δ] [Transport δ] : Transport (Tracked δ) where
  name t := Transport.name t.device
  timeout t := Transport.timeout t.device
  setTimeout span := Tracked.call (Transport.setTimeout span)
  read n := Tracked.call (Transport.read n)
  write bytes := Tracked.call (Transport.write bytes)
  flush := Tracked.call Transport.flush
  clear := Tracked.call Transport.clear
  reopen := Tracked.call Transport.reopen
  close := Tracked.call Transport.close
  backlog t := Transport.backlog t.device
  interruptions t := Transport.interruptions t.device
  setTimeout_ok span t t' h := by
    obtain ⟨h1, rfl⟩ := Prod.mk.inj h
    exact Transport.setTimeout_ok span t.device _ (Prod.ext h1 rfl)
  read_data n t t' b bs h := by
    obtain ⟨h1, rfl⟩ := Prod.mk.inj h
    exact Transport.read_data n t.device _ b bs (Prod.ext h1 rfl)
  read_idle n t t' f h := by
    obtain ⟨h1, rfl⟩ := Prod.mk.inj h
    exact Transport.read_idle n t.device _ f (Prod.ext h1 rfl)
  write_interrupted bytes t t' f h := by
    obtain ⟨h1, rfl⟩ := Prod.mk.inj h
    exact Transport.write_interrupted bytes t.device _ f (Prod.ext h1 rfl)

/-- Takes down what is asked for, and on which session, and then reboots. -/
def Rebooter.tracked (rebooter : Rebooter δ) : Rebooter (Tracked δ) where
  name := rebooter.name
  reboot options := do
    Act.change fun s =>
      { s with device := { s.device with calls := s.device.calls ++ [(options, s.untracked)] } }
    Session.track (rebooter.reboot options)

def Loader.tracked (loader : Loader δ) : Loader (Tracked δ) where
  load apps := Act.zoom (fun c => ⟨c.session.untracked, c.state⟩)
    (fun c' c => ⟨c'.session.retracked c.session, c'.state⟩) (loader.load apps)

/-- The target as far as tests have to do with it. -/
def Target.tracked (target : Target δ) : Target (Tracked δ) where
  config := target.config
  rebooter := target.rebooter.tracked
  loader := target.loader.map Loader.tracked

def Body.tracked (b : Body δ) : Body (Tracked δ) where
  command := b.command
  run timeout := Act.zoom (fun t => ⟨t.session.untracked, t.verdict⟩)
    (fun t' t => ⟨t'.session.retracked t.session, t'.verdict⟩) (b.run timeout)

def Test.tracked (t : Test δ) : Test (Tracked δ) := { t with body := t.body.tracked }

/-! ## Stages -/

/-- A test that loads applications has a loader to do it. -/
theorem Test.bootloaderStages_eq {t : Test δ} {target : Target δ} {boot : List Stage}
    (h : t.bootloaderStages target = .ok boot) :
    boot = [] ∨ ∃ apps, boot = [.bootloader apps] ∧ (apps = [] ∨ target.loader.isSome = true) := by
  unfold Test.bootloaderStages at h
  split at h
  · cases h
    exact .inl rfl
  · rename_i apps _
    split at h
    · cases h
    · rename_i hloads
      cases h
      refine .inr ⟨apps, rfl, ?_⟩
      by_cases happs : apps = []
      · exact .inl happs
      · simp only [Target.canLoadApps, Bool.and_eq_true, Bool.not_eq_true', List.isEmpty_eq_false_iff,
          happs, ne_eq, not_false_eq_true, true_and, Bool.not_eq_false] at hloads
        exact .inr hloads

theorem Test.mem_bootloaderStages {t : Test δ} {target : Target δ} {boot : List Stage} {stage : Stage}
    (h : t.bootloaderStages target = .ok boot) (hs : stage ∈ boot) :
    ∃ apps, stage = .bootloader apps ∧ (apps = [] ∨ target.loader.isSome = true) := by
  rcases Test.bootloaderStages_eq h with rfl | ⟨apps, rfl, hloads⟩
  · cases hs
  · exact ⟨apps, List.mem_singleton.1 hs, hloads⟩

theorem Test.kernelLogStages_eq {t : Test δ} {config : TargetConfig} {silence speak : List Stage}
    (h : t.kernelLogStages config = .ok (silence, speak)) :
    silence = [] ∧ speak = [] ∨ ∃ off on prompt,
      silence = [.kernelLog off prompt false] ∧ speak = [.kernelLog on prompt true] := by
  unfold Test.kernelLogStages at h
  split at h
  · cases h
    exact .inl ⟨rfl, rfl⟩
  · split at h
    · cases h
    · cases h
      exact .inr ⟨_, _, _, rfl, rfl⟩
    · cases h
      exact .inl ⟨rfl, rfl⟩

theorem Test.mem_kernelLogStages {t : Test δ} {config : TargetConfig} {silence speak : List Stage}
    {stage : Stage} (h : t.kernelLogStages config = .ok (silence, speak))
    (hs : stage ∈ silence ∨ stage ∈ speak) :
    ∃ command prompt enable, stage = .kernelLog command prompt enable := by
  rcases Test.kernelLogStages_eq h with ⟨rfl, rfl⟩ | ⟨off, on, prompt, rfl, rfl⟩
  · rcases hs with hs | hs <;> cases hs
  · rcases hs with hs | hs
    · exact ⟨_, _, false, List.mem_singleton.1 hs⟩
    · exact ⟨_, _, true, List.mem_singleton.1 hs⟩

theorem Test.mem_shellStages {t : Test δ} {config : TargetConfig} {stage : Stage}
    (hs : stage ∈ t.shellStages config) : ∃ prompt timeout poke, stage = .shell prompt timeout poke := by
  unfold Test.shellStages at hs
  split at hs
  · cases hs
  · exact ⟨_, _, _, List.mem_singleton.1 hs⟩

theorem Test.stages_eq_append {t : Test δ} {target : Target δ} {stages : List Stage}
    (h : t.stages target = .ok stages) :
    ∃ boot silence speak, t.bootloaderStages target = .ok boot ∧
      t.kernelLogStages target.config = .ok (silence, speak) ∧
      stages = (if t.shouldReboot then [.reboot .soft] else []) ++ (boot ++
        (t.shellStages target.config ++ (silence ++ .body ::
          ((t.prompt? target.config).toList.map .closingPrompt ++ speak)))) := by
  unfold Test.stages at h
  rcases hboot : t.bootloaderStages target with e | boot
  · rw [hboot] at h
    cases h
  rcases hlog : t.kernelLogStages target.config with e | ⟨silence, speak⟩
  · rw [hboot, hlog] at h
    cases h
  rw [hboot, hlog] at h
  cases h
  exact ⟨boot, silence, speak, rfl, rfl, by simp⟩

/-- The reboot of a test comes first, and there is no other. -/
theorem Test.stages_eq {t : Test δ} {target : Target δ} {stages : List Stage}
    (h : t.stages target = .ok stages) :
    ∃ rest, stages = (if t.shouldReboot then [.reboot .soft] else []) ++ rest ∧ .body ∈ rest ∧
      ∀ options, .reboot options ∉ rest := by
  obtain ⟨boot, silence, speak, hboot, hlog, rfl⟩ := Test.stages_eq_append h
  refine ⟨_, rfl, by simp, fun options hmem => ?_⟩
  simp only [List.mem_append, List.mem_cons] at hmem
  rcases hmem with hmem | hmem | hmem | hmem | hmem | hmem
  · obtain ⟨_, hs, -⟩ := Test.mem_bootloaderStages hboot hmem
    cases hs
  · obtain ⟨_, _, _, hs⟩ := Test.mem_shellStages hmem
    cases hs
  · obtain ⟨_, _, _, hs⟩ := Test.mem_kernelLogStages hlog (.inl hmem)
    cases hs
  · cases hmem
  · obtain ⟨_, _, hs⟩ := List.mem_map.1 hmem
    cases hs
  · obtain ⟨_, _, _, hs⟩ := Test.mem_kernelLogStages hlog (.inr hmem)
    cases hs

theorem Test.stages_tracked (t : Test δ) (target : Target δ) :
    t.tracked.stages target.tracked = t.stages target := by
  have hload : target.tracked.canLoadApps = target.canLoadApps := by
    unfold Target.canLoadApps Target.tracked
    cases target.loader <;> rfl
  unfold Test.stages Test.bootloaderStages
  rw [hload]
  rfl

variable [Bench δ] [Transport δ]

/-- A tracked transport is in step with the transport, whatever reboots were asked for. -/
theorem Tracked.inStep (calls : List (RebootOptions × Session δ)) :
    Transport.InStep fun (t : Tracked δ) (d : δ) => d = t.device ∧ t.calls = calls where
  name t d h := by rw [h.1]; rfl
  now t d h := by rw [h.1]; rfl
  note level text t d h := ⟨by rw [h.1]; rfl, h.2⟩
  setTimeout span t d h := by obtain ⟨rfl, h⟩ := h; exact ⟨rfl, rfl, h⟩
  read n t d h := by obtain ⟨rfl, h⟩ := h; exact ⟨rfl, rfl, h⟩
  write bytes t d h := by obtain ⟨rfl, h⟩ := h; exact ⟨rfl, rfl, h⟩
  flush t d h := by obtain ⟨rfl, h⟩ := h; exact ⟨rfl, rfl, h⟩

omit [Bench δ] [Transport δ] in
theorem Session.alike_tracked_iff {calls : List (RebootOptions × Session δ)}
    {t : Session (Tracked δ)} {s : Session δ} :
    Alike (fun t d => d = t.device ∧ t.calls = calls) t s ↔ Tracks calls t s := by
  constructor
  · rintro ⟨⟨hdevice, hcalls⟩, hbuffer, hlog, hclosed⟩
    cases s
    cases hdevice
    cases hbuffer
    cases hlog
    cases hclosed
    exact ⟨rfl, hcalls⟩
  · rintro ⟨rfl, hcalls⟩
    exact ⟨⟨rfl, hcalls⟩, rfl, rfl, rfl⟩

theorem Session.tracks_inStep (calls : List (RebootOptions × Session δ)) :
    Session.InStep (fun _ => True) (Session.Tracks calls) := by
  have h := session_inStep (Tracked.inStep calls) rfl
  rwa [show Alike (fun (t : Tracked δ) (d : δ) => d = t.device ∧ t.calls = calls) = Tracks calls from
    funext fun _ => funext fun _ => propext alike_tracked_iff] at h

/-- The tracked trial is the trial, and these reboots were asked for. -/
structure Trial.Tracks (calls : List (RebootOptions × Session δ)) (t : Trial (Tracked δ)) (u : Trial δ) :
    Prop where
  session : Session.Tracks calls t.session u.session
  verdict : u.verdict = t.verdict

section stages

variable {calls : List (RebootOptions × Session δ)}

omit [Bench δ] [Transport δ] in
theorem Trial.onSession_relates {x : Act (Session (Tracked δ)) α} {y : Act (Session δ) α}
    (h : Act.Relates (Session.Tracks calls) x y) :
    Act.Relates (Trial.Tracks calls) (Trial.onSession x) (Trial.onSession y) :=
  h.zoom (fun _ _ ht => ht.session) fun _ _ ht _ _ hs => ⟨hs, ht.verdict⟩

omit [Bench δ] [Transport δ] in
theorem Trial.judge_relates (f : Verdict → Verdict) :
    Act.Relates (Trial.Tracks (δ := δ) calls) (Trial.judge f) (Trial.judge f) :=
  .change fun _ _ ht => ⟨ht.session, congrArg f ht.verdict⟩

namespace Stage

open Bootloader

omit [Bench δ] [Transport δ] in
theorem load_relates (loader : Loader δ) (apps : List AppSpec) :
    Act.Relates (Client.Both (Session.Tracks calls)) (loader.tracked.load apps) (loader.load apps) := by
  rintro c c' ⟨hstate, hsession, hcalls⟩
  obtain rfl : c' = ⟨c.session.untracked, c.state⟩ := by
    cases c'
    cases hstate
    cases hsession
    rfl
  exact ⟨rfl, rfl, rfl, hcalls⟩

theorem passBootloader_relates (loader : Option (Loader δ)) (apps : List AppSpec) :
    Act.Relates (Session.Tracks calls) (passBootloader (loader.map Loader.tracked) apps)
      (passBootloader loader apps) := by
  have hS := Session.tracks_inStep calls
  refine Client.within_relates ((Client.enterBootloader_relates hS).bind fun _ =>
    .ite Iff.rfl (Client.exitToOs_relates hS) ?_)
  cases loader with
  | none => exact .fail_bind _ _ _
  | some loader => exact (load_relates loader apps).bind fun _ => Client.exitToOs_relates hS

/-- A stage that is no reboot asks for none. -/
theorem run_tracked (target : Target δ) (b : Body δ) (timeout : Span) {stage : Stage}
    (h : ∀ options, stage ≠ .reboot options) :
    Act.Relates (Trial.Tracks calls) (stage.run target.tracked b.tracked timeout)
      (stage.run target b timeout) := by
  have hS := Session.tracks_inStep calls
  have wait (text : String) (span : Span) :
      Act.Relates (Session.Tracks calls) (Session.expectExact (Bytes.ofText text) span)
        (Session.expectExact (Bytes.ofText text) span) :=
    hS.expect _ span (Pattern.stable_literal _) trivial
  cases stage with
  | reboot options => exact absurd rfl (h options)
  | bootloader apps =>
    exact (Trial.onSession_relates (passBootloader_relates target.loader apps)).bind fun _ => .pure true
  | shell prompt bootup poke =>
    refine Trial.onSession_relates ?_
    exact .ite Iff.rfl
      ((hS.sendLine []).bind fun _ => (wait prompt bootup).bind fun _ => .pure true)
      ((wait prompt bootup).bind fun _ => .pure true)
  | kernelLog command prompt enable =>
    exact Trial.onSession_relates ((hS.sendLine _).bind fun _ =>
      ((wait prompt timeout).mapError _).bind fun _ => .pure true)
  | body =>
    have hbody : Act.Relates (Trial.Tracks calls) (b.tracked.run timeout) (b.run timeout) := by
      rintro t u ⟨⟨hsession, hcalls⟩, hverdict⟩
      obtain rfl : u = ⟨t.session.untracked, t.verdict⟩ := by
        cases u
        cases hsession
        cases hverdict
        rfl
      exact ⟨rfl, ⟨rfl, hcalls⟩, rfl⟩
    refine hbody.bind fun _ => (Trial.judge_relates _).bind fun _ => .state_bind fun t u ht => ?_
    rw [ht.verdict]
    exact ⟨rfl, ht⟩
  | closingPrompt prompt =>
    exact Trial.onSession_relates (((wait prompt timeout).mapError _).bind fun _ => .pure true)

/-- A pipeline on a trial and on the tracked one, after a first stage that comes to the same on both. -/
theorem runAll_cons_tracked {target : Target δ} {b : Body δ} {timeout : Span} {stage : Stage}
    {rest : List Stage} {t : Trial (Tracked δ)} {u : Trial δ}
    (hstage : (stage.run target b timeout u).1 = (stage.run target.tracked b.tracked timeout t).1 ∧
      Trial.Tracks calls (stage.run target.tracked b.tracked timeout t).2
        (stage.run target b timeout u).2)
    (hrest : Act.Relates (Trial.Tracks calls) (runAll target.tracked b.tracked timeout rest)
      (runAll target b timeout rest)) :
    (runAll target b timeout (stage :: rest) u).1 =
        (runAll target.tracked b.tracked timeout (stage :: rest) t).1 ∧
      Trial.Tracks calls (runAll target.tracked b.tracked timeout (stage :: rest) t).2
        (runAll target b timeout (stage :: rest) u).2 := by
  obtain ⟨hval, hrel⟩ := hstage
  rcases ht : stage.run target.tracked b.tracked timeout t with ⟨e | _ | _, t'⟩ <;>
    rcases hu : stage.run target b timeout u with ⟨_ | _, u'⟩ <;> rw [ht, hu] at hval hrel <;>
    cases hval <;> simp only [runAll, ht, hu]
  · by_cases hfatal : e.isFatal = true
    · rw [if_pos hfatal, if_pos hfatal]
      exact ⟨rfl, hrel⟩
    · rw [if_neg hfatal, if_neg hfatal]
      have hnote := (Session.tracks_inStep calls).note .info
        fun _ => "Stage " ++ stage.name ++ " failed: " ++ e.message
      exact ((Trial.onSession_relates hnote).bind fun _ =>
        Trial.judge_relates (Verdict.fail stage.failureStage e.message)) t' u' hrel
  · exact ⟨trivial, hrel⟩
  · exact hrest t' u' hrel

/-- Stages of which none is a reboot ask for none. -/
theorem runAll_tracked (target : Target δ) (b : Body δ) (timeout : Span) {stages : List Stage}
    (h : ∀ options, .reboot options ∉ stages) :
    Act.Relates (Trial.Tracks calls) (runAll target.tracked b.tracked timeout stages)
      (runAll target b timeout stages) := by
  induction stages with
  | nil => exact .pure ()
  | cons stage rest ih =>
    intro t u htu
    refine runAll_cons_tracked (run_tracked target b timeout (fun options hs => ?_) t u htu)
      (ih fun options hmem => h options (List.mem_cons_of_mem stage hmem))
    exact h options (hs ▸ List.mem_cons_self)

end Stage
end stages

/-! ## Tests -/

/-- The session when a reboot of the target has been announced. -/
def Target.announced (target : Target δ) (s : Session δ) : Session δ :=
  { s with
    device := Bench.note .info
      ("Rebooting " ++ target.config.name ++ " through " ++ target.rebooter.name) s.device }

omit [Transport δ] in
theorem Target.reboot_tracked (target : Target δ) (options : RebootOptions)
    {calls : List (RebootOptions × Session δ)} {t : Session (Tracked δ)} {s : Session δ}
    (h : Session.Tracks calls t s) :
    (target.reboot options s).1 = (target.tracked.reboot options t).1 ∧
      Session.Tracks (calls ++ [(options, target.announced s)]) (target.tracked.reboot options t).2
        (target.reboot options s).2 := by
  obtain ⟨rfl, hcalls⟩ := h
  exact ⟨rfl, rfl, congrArg (· ++ [(options, target.announced t.untracked)]) hcalls⟩

theorem Stage.run_reboot (target : Target δ) (b : Body δ) (timeout : Span) (options : RebootOptions)
    (t : Trial δ) :
    (Stage.reboot options).run target b timeout t =
      ((target.reboot options t.session).1.map fun _ => true,
        { t with session := (target.reboot options t.session).2 }) := by
  rcases hreboot : target.reboot options t.session with ⟨e | _, s⟩
  · exact Act.bind_error (Act.zoom_eq_iff.2 ⟨s, hreboot, rfl⟩)
  · exact Act.bind_ok (Act.zoom_eq_iff.2 ⟨s, hreboot, rfl⟩)

/-- Whether the stages of the test are run: it is not ignored and they fit together. -/
def Test.isRun (t : Test δ) (target : Target δ) : Bool := !t.ignore && (t.stages target).isOk

/-- Whether the test asks for a reboot. -/
def Test.asksReboot (t : Test δ) (target : Target δ) : Bool := t.isRun target && t.shouldReboot

/-- A test asks for at most one reboot, and when it does, then before it does anything else to the
device. -/
theorem runOne_tracked (target : Target δ) (t : Test δ) (s : Session δ) :
    (Run.runOne target t s).1 = (Run.runOne target.tracked t.tracked s.tracked).1 ∧
      Session.Tracks (if t.asksReboot target then [(.soft, target.announced s)] else [])
        (Run.runOne target.tracked t.tracked s.tracked).2 (Run.runOne target t s).2 := by
  have hs : Session.Tracks [] s.tracked s := ⟨rfl, rfl⟩
  have htrial : Trial.Tracks [] ⟨s.tracked, {}⟩ ⟨s, {}⟩ := ⟨hs, rfl⟩
  unfold Run.runOne Test.asksReboot Test.isRun
  rw [Test.stages_tracked]
  rw [show t.tracked.ignore = t.ignore from rfl]
  by_cases hignore : t.ignore = true
  · rw [if_pos hignore, if_pos hignore, hignore]
    exact ⟨rfl, hs⟩
  rw [if_neg hignore, if_neg hignore, Bool.eq_false_iff.2 hignore]
  rcases hstages : t.stages target with e | stages
  · exact ⟨rfl, hs⟩
  obtain ⟨rest, rfl, -, hrest⟩ := Test.stages_eq hstages
  -- what the pipeline does decides what the test does
  have drive {calls : List (RebootOptions × Session δ)} {stages : List Stage}
      (h : (Stage.runAll target t.body t.timeout stages ⟨s, {}⟩).1 =
          (Stage.runAll target.tracked t.body.tracked t.timeout stages ⟨s.tracked, {}⟩).1 ∧
        Trial.Tracks calls
          (Stage.runAll target.tracked t.body.tracked t.timeout stages ⟨s.tracked, {}⟩).2
          (Stage.runAll target t.body t.timeout stages ⟨s, {}⟩).2) :
      (Stage.drive target t.body t.timeout stages s).1 =
          (Stage.drive target.tracked t.body.tracked t.timeout stages s.tracked).1 ∧
        Session.Tracks calls
          (Stage.drive target.tracked t.body.tracked t.timeout stages s.tracked).2
          (Stage.drive target t.body t.timeout stages s).2 := by
    obtain ⟨hval, hrel⟩ := h
    refine ⟨?_, hrel.session⟩
    simp only [Stage.drive]
    rw [hval, hrel.verdict]
  by_cases hflag : t.shouldReboot = true
  · simp only [hflag]
    refine drive (Stage.runAll_cons_tracked ?_ (Stage.runAll_tracked target t.body t.timeout hrest))
    obtain ⟨hval, hrel⟩ := target.reboot_tracked .soft hs
    rw [Stage.run_reboot, Stage.run_reboot]
    exact ⟨congrArg (Except.map fun _ => true) hval, hrel, rfl⟩
  · simp only [Bool.eq_false_iff.2 hflag]
    exact drive (Stage.runAll_tracked target t.body t.timeout hrest _ _ htrial)

end BoardBench
