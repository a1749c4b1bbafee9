import BoardBench.Proofs.CommandLine.ExitStatus

/-!
# What entries say and what targets can do

Four conditions are written apart: an entry is checked, the ways to act on its target are chosen, it is
decided whether to program the board, and the stages of a test are checked. `TargetEntry.Agrees` says how
they fit together. They do for every target that a command opens, so a board is programmed only if there is
something to program it with (`opened_agree`).
-/

namespace BoardBench

open Transport

/-! ## Tests -/

namespace Test

variable {δ : Type} {t : Test δ} {target : Target δ}

/-- The stages of the test do not fit together on the target. -/
def Misfits (t : Test δ) (target : Target δ) : Prop :=
  ∃ reason, t.stages target = .error (.composition reason)

theorem bootloaderStages_cases (t : Test δ) (target : Target δ) :
    let unloadable := (∃ apps, t.bootloader = some apps ∧ apps ≠ []) ∧ target.loader = none
    unloadable ∧ (∃ reason, t.bootloaderStages target = .error (.composition reason)) ∨
      ¬ unloadable ∧ ∃ stages, t.bootloaderStages target = .ok stages := by
  intro unloadable
  unfold bootloaderStages
  split
  · rename_i hnone
    refine .inr ⟨fun ⟨⟨apps, happs, _⟩, _⟩ => ?_, _, rfl⟩
    cases hnone.symm.trans happs
  · rename_i apps happs
    split
    · rename_i hlack
      simp only [Target.canLoadApps, Bool.and_eq_true, Bool.not_eq_true', List.isEmpty_eq_false_iff,
        Option.isSome_eq_false_iff, Option.isNone_iff_eq_none] at hlack
      exact .inl ⟨⟨⟨apps, happs, hlack.1⟩, hlack.2⟩, _, rfl⟩
    · rename_i hlack
      refine .inr ⟨fun ⟨⟨apps', happs', hne⟩, hloader⟩ => hlack ?_, _, rfl⟩
      cases happs.symm.trans happs'
      simp [Target.canLoadApps, hne, hloader]

theorem kernelLogStages_cases (t : Test δ) (config : TargetConfig) :
    let unreachable := t.suppressKernelLog = true ∧ t.shell = none
    unreachable ∧ (∃ reason, t.kernelLogStages config = .error (.composition reason)) ∨
      ¬ unreachable ∧ ∃ stages, t.kernelLogStages config = .ok stages := by
  intro unreachable
  unfold kernelLogStages
  split
  · rename_i hloud
    refine .inr ⟨fun ⟨hquiet, _⟩ => ?_, _, rfl⟩
    simp [hquiet] at hloud
  · rename_i hquiet
    have hquiet : t.suppressKernelLog = true := by simpa using hquiet
    have hprompt : t.prompt? config = none ↔ t.shell = none := Option.map_eq_none_iff
    split
    · rename_i hnone
      exact .inl ⟨⟨hquiet, hprompt.1 hnone⟩, _, rfl⟩
    · rename_i hsome _ _
      refine .inr ⟨fun ⟨_, hshell⟩ => ?_, _, rfl⟩
      cases hsome.symm.trans (hprompt.2 hshell)
    · rename_i hnone _
      refine .inr ⟨fun ⟨_, hshell⟩ => hnone (hprompt.2 hshell), _, rfl⟩

/-- The stages fit together, unless there are applications to load and no loader, or the kernel is to be
silenced by a shell that is not entered. -/
theorem misfits_iff : t.Misfits target ↔
    (∃ apps, t.bootloader = some apps ∧ apps ≠ []) ∧ target.loader = none ∨
      t.suppressKernelLog = true ∧ t.shell = none := by
  unfold Misfits stages
  rcases t.bootloaderStages_cases target with ⟨happs, reason, hboot⟩ | ⟨happs, boot, hboot⟩ <;> rw [hboot]
  · exact ⟨fun _ => .inl happs, fun _ => ⟨reason, rfl⟩⟩
  rcases t.kernelLogStages_cases target.config with ⟨hlog, reason, hstages⟩ | ⟨hlog, stages, hstages⟩ <;>
    simp only [hstages]
  · exact ⟨fun _ => .inr hlog, fun _ => ⟨reason, rfl⟩⟩
  · exact ⟨nofun, fun h => (h.elim happs hlog).elim⟩

theorem Is.misfits_iff {u : Test δ} (h : u.Is t) : u.Misfits target ↔ t.Misfits target := by
  rw [Test.misfits_iff, Test.misfits_iff, h]

end Test

section

variable {δ : Type} [Bench δ] [Transport δ]

theorem TestEntry.resolve_eq_ok {test : TestEntry} {t : Test δ} (h : test.resolve = .ok t) :
    t.bootloader = (if test.bootloader || !test.apps.isEmpty then some test.apps else none) ∧
      (t.shell = none ↔ test.shell = false) ∧ t.suppressKernelLog = test.suppressKernelLog := by
  unfold resolve at h
  by_cases hempty : (test.command.isNone && test.expect.isEmpty) = true
  · rw [if_pos hempty] at h
    cases h
  rw [if_neg hempty] at h
  rcases hpatterns : test.expect.mapM (test.pattern (Bench.libraries δ).regexes) with f | patterns <;>
    rw [hpatterns] at h <;> cases h
  refine ⟨rfl, ?_, rfl⟩
  cases test.shell <;> simp

/-- A test with applications fits a target with a loader, if it does not silence the kernel without a
shell. -/
theorem TestEntry.misfits_iff {test : TestEntry} {t : Test δ} {target : Target δ}
    (h : test.resolve = .ok t) (happs : test.apps ≠ []) :
    t.Misfits target ↔
      target.loader = none ∨ test.suppressKernelLog = true ∧ test.shell = false := by
  obtain ⟨hboot, hshell, hlog⟩ := resolve_eq_ok h
  rw [if_pos (by simp [happs])] at hboot
  rw [Test.misfits_iff, hshell, hlog]
  refine or_congr_left (and_iff_right ⟨_, hboot, happs⟩)

/-! ## Targets -/

/-- Of what is programmed or loaded, the target has what its entry says, and the server that is needed. -/
theorem TargetEntry.resolve_eq_ok {entry : TargetEntry} {name : String} {port : Option String}
    {described : TargetConfig} (h : entry.resolve name port = .ok described) :
    described.flashImage = entry.flashImage ∧ described.ramWindow = entry.ramWindow ∧
      described.fileServer = entry.fileServer ∧
      (entry.fileServer = none → entry.flashImage = none ∧ entry.ramWindow = none) := by
  unfold resolve at h
  by_cases hserver : (entry.fileServer.isNone && (entry.flashImage.isSome || entry.ramWindow.isSome)) = true
  · rw [if_pos hserver] at h
    cases h
  rw [if_neg hserver] at h
  rcases hconsole : entry.console name port with f | console <;> rw [hconsole] at h
  · cases h
  replace h : (if entry.kernelLogOff.isSome != entry.kernelLogOn.isSome then _ else _ :
    Except CommandFailure TargetConfig) = _ := h
  split at h
  · cases h
  · cases h
    refine ⟨rfl, rfl, rfl, fun hnone => ?_⟩
    simpa [hnone] using hserver

variable [Processes δ] [Files δ] [Consoles δ]

theorem Target.open_eq_ok {described : TargetConfig} {rebooter : Rebooter δ} {d d' : δ} {t : Target δ}
    (h : Target.open described rebooter d = (.ok t, d')) :
    t.config = described ∧
      (t.flasher.isSome ↔ described.fileServer.isSome ∧ described.flashImage.isSome) ∧
      (t.loader.isSome ↔ described.fileServer.isSome ∧ described.ramWindow.isSome) := by
  obtain ⟨_, _, -, h⟩ := Act.bind_ok_iff.1 h
  cases h
  cases described.fileServer <;> simp

/-- A target can be programmed if its entry has an image, and load applications if its entry has a window
for them. -/
theorem TargetEntry.open_capable {entry : TargetEntry} {name : String} {port : Option String}
    {described : TargetConfig} {rebooter : Rebooter δ} {d d' : δ} {t : Target δ}
    (h : entry.resolve name port = .ok described) (hopen : Target.open described rebooter d = (.ok t, d')) :
    (t.flasher.isSome ↔ entry.flashImage.isSome) ∧ (t.loader.isSome ↔ entry.ramWindow.isSome) := by
  obtain ⟨himage, hwindow, hserver, hneeds⟩ := resolve_eq_ok h
  obtain ⟨-, hflasher, hloader⟩ := Target.open_eq_ok hopen
  rw [hflasher, hloader, himage, hwindow, hserver]
  -- The check of the entry asks for the server that opening needs: without one there is nothing to serve.
  cases hnone : entry.fileServer with
  | none =>
    obtain ⟨hflash, hram⟩ := hneeds hnone
    simp [hflash, hram]
  | some server => simp

end

/-! ## Programming -/

section

variable {δ : Type} [Bench δ] [Transport δ]

/-- Programs a target with a flasher. -/
def Flasher.program (f : Flasher δ) (t : Target δ) (progress : Progress δ) : Act (Session δ) Unit := do
  Session.note .info ("Flashing " ++ t.config.name)
  f.flash t.rebooter progress

/-- The error of a target that is to be programmed without a flasher. -/
def Target.noFlasher (t : Target δ) : Error :=
  .unsupported ("target " ++ t.config.name ++ " has no flash image")

omit [Transport δ] in
theorem Target.flash_eq (t : Target δ) (progress : Progress δ) :
    t.flash progress = t.flasher.elim (Act.fail t.noFlasher) fun f => f.program t progress := by
  unfold Target.flash
  cases t.flasher <;> rfl

/-- A run that programs the board first if it is given a flasher for it. -/
def Run.executeWith (flasher : Option (Flasher δ)) (target : Target δ) (plan : RunPlan) (w : Watcher δ)
    (tests : List (Test δ)) : Act (Run δ) Summary := do
  if let some f := flasher then
    onSession (f.program target w.flashProgress)
  let summary ← if plan.test then runTests target plan.nightly w tests {} else Pure.pure {}
  report w (.summary summary)
  return summary

/-- If a flasher is there when it is needed, then the board is programmed with it or not at all. -/
theorem Run.execute_eq_executeWith {target : Target δ} {plan : RunPlan}
    (h : plan.flash = true → target.flasher.isSome) (w : Watcher δ) (tests : List (Test δ)) :
    execute target plan w tests =
      executeWith (if plan.flash then target.flasher else none) target plan w tests := by
  unfold execute executeWith
  cases hplan : plan.flash with
  | false => rfl
  | true =>
    obtain ⟨f, hf⟩ := Option.isSome_iff_exists.1 (h hplan)
    simp only [Target.flash_eq, hf]
    rfl

end

/-! ## Commands -/

section

variable {δ : Type} [Bench δ] [Transport δ]

/-- What an entry says and what its target can do go together. -/
structure TargetEntry.Agrees (entry : TargetEntry) (target : Target δ) : Prop where
  flashImage : target.config.flashImage = entry.flashImage
  flasher : target.flasher.isSome ↔ entry.flashImage.isSome
  loader : target.loader.isSome ↔ entry.ramWindow.isSome
  /-- With an image, programming the board does not fail for want of a flasher. -/
  flash : entry.flashImage.isSome → ∀ progress s s',
    target.flash progress s = (.error target.noFlasher, s') → Raises δ target.noFlasher
  /-- The stages of a test with applications fit together, unless there is no window to load them into, or
  the kernel is to be silenced without a shell. -/
  misfits : ∀ (test : TestEntry) (t u : Test δ), test.resolve = .ok t → test.apps ≠ [] → u.Is t →
    (u.Misfits target ↔ entry.ramWindow = none ∨ test.suppressKernelLog = true ∧ test.shell = false)

theorem TargetEntry.Agrees.isSome_flashImage {entry : TargetEntry} {target : Target δ}
    (h : entry.Agrees target) : target.config.flashImage.isSome = target.flasher.isSome := by
  rw [h.flashImage, Bool.eq_iff_iff.2 h.flasher]

variable [Processes δ] [Files δ] [Operator δ]

theorem TargetEntry.Agrees.of_capable {entry : TargetEntry} {target : Target δ} (hstandard : target.Standard)
    (himage : target.config.flashImage = entry.flashImage)
    (hflasher : target.flasher.isSome ↔ entry.flashImage.isSome)
    (hloader : target.loader.isSome ↔ entry.ramWindow.isSome) : entry.Agrees target where
  flashImage := himage
  flasher := hflasher
  loader := hloader
  flash h progress s s' herror := by
    rcases hstandard.flash_raises (hflasher.2 h) progress _ _ _ herror with ⟨_, _, he⟩ | ⟨_, he⟩ | hraises
    · cases he
    · cases he
    · exact hraises
  misfits test t u hresolve happs hu := by
    have hnone : target.loader = none ↔ entry.ramWindow = none := by
      rw [← Option.not_isSome_iff_eq_none, hloader, Option.not_isSome_iff_eq_none]
    rw [hu.misfits_iff, TestEntry.misfits_iff hresolve happs, hnone]

variable [SerialLines δ] [Consoles δ]

namespace CommandLine

open Command

theorem openTarget_agrees {choices : Choices} {config : Config} {d d' : δ} {w : Workplace δ}
    (h : (openTarget choices config).run d = (.ok w, d')) :
    ∃ name entry, config.target choices.target = .ok (name, entry) ∧ entry.Agrees w.target := by
  obtain ⟨name, entry, port, described, strategy, d₁, d₂, htarget, hdescribed, hopen⟩ := openTarget_eq_ok h
  obtain ⟨hflasher, hloader⟩ := TargetEntry.open_capable hdescribed hopen
  refine ⟨name, entry, htarget, .of_capable (openTarget_standard h) ?_ hflasher hloader⟩
  rw [(Target.open_eq_ok hopen).1, (TargetEntry.resolve_eq_ok hdescribed).1]

/-- The part of a flash up to where its target is open. -/
def openFlash (choices : Choices) (own : Option String) : Command δ (Workplace δ) := do
  let config ← ofExcept (Config.load choices.configFile own (← get))
  openTarget choices config

/-- What a flash does with a target that has no image. -/
def Workplace.refuse (w : Workplace δ) : Command δ Unit := do
  w.finish (w.session (← get))
  throw (.config ("target " ++ w.target.config.name ++ " has no flash_image"))

/-- The board is programmed, and that is all. -/
def flashPlan : RunPlan := { flash := true, test := false }

/-- What a flash does with a target that has an image. -/
def Workplace.program (w : Workplace δ) (quiet : Bool) : Command δ Unit := do
  let _ ← carryOut w flashPlan [] quiet
  if !quiet then say "\n✓ Flashing completed\n"

theorem flashBoard_eq (choices : Choices) (own : Option String) :
    (flashBoard choices own : Command δ Unit) = openFlash choices own >>= fun w =>
      if w.target.config.flashImage.isSome then w.program choices.quiet else w.refuse := by
  unfold flashBoard openFlash
  simp only [bind_assoc]
  refine bind_congr fun d => bind_congr fun config => bind_congr fun w => ?_
  cases w.target.config.flashImage with
  | none => exact bind_congr fun _ => bind_congr fun _ => rfl
  | some image => rfl

/-- A target that a command has opened agrees with its entry. So a run programs the board, unless it is told
not to, exactly if there is a flasher, and with it; and a flash programs the board with the flasher if there
is one, and else refuses and leaves the board alone. Neither ever fails for want of a flasher, unless the
transport itself raises such an error. -/
theorem opened_agree :
    (∀ (entry : TargetEntry) (name : String) (port : Option String) (described : TargetConfig)
      (rebooter : Rebooter δ) (d d' : δ) (t : Target δ), entry.resolve name port = .ok described →
      Target.open described rebooter d = (.ok t, d') →
      (t.flasher.isSome ↔ entry.flashImage.isSome) ∧ (t.loader.isSome ↔ entry.ramWindow.isSome)) ∧
    (∀ (choices : Choices) (own : Option String) (noFlash noTest nightly : Bool) (only : List String)
      (d d' : δ) (o : Opened δ), (openRun choices own noTest only).run d = (.ok o, d') →
      let target := o.workplace.target
      let plan := o.plan noFlash noTest nightly
      (runTests choices own noFlash noTest nightly only).run d =
        (o.run noFlash noTest nightly choices.quiet).run d' ∧
      (∀ w, Run.execute target plan w o.tests =
        Run.executeWith (if noFlash then none else target.flasher) target plan w o.tests) ∧
      ∃ config entry, Config.load choices.configFile own d = .ok config ∧
        config.target choices.target = .ok (o.name, entry) ∧ entry.Agrees target ∧
        ∀ t ∈ o.tests, ∃ test ∈ config.tests, test.resolve = .ok t) ∧
    ∀ (choices : Choices) (own : Option String) (d d' : δ) (w : Workplace δ),
      (openFlash choices own).run d = (.ok w, d') →
      (flashBoard choices own).run d =
        (if w.target.flasher.isSome then w.program choices.quiet else w.refuse).run d' ∧
      (w.target.flasher.isSome → ∀ watcher, Run.execute w.target flashPlan watcher [] =
        Run.executeWith w.target.flasher w.target flashPlan watcher []) ∧
      ∃ config name entry, Config.load choices.configFile own d = .ok config ∧
        config.target choices.target = .ok (name, entry) ∧ entry.Agrees w.target := by
  refine ⟨fun entry name port described rebooter d d' t h hopen => TargetEntry.open_capable h hopen, ?_, ?_⟩
  · intro choices own noFlash noTest nightly only d d' o h target plan
    obtain ⟨config, entry, d₁, hload, hentry, htests, hopen⟩ := openRun_eq_ok h
    obtain ⟨name, entry', hentry', hagrees⟩ := openTarget_agrees hopen
    cases hentry.symm.trans hentry'
    -- The command looks for an image and the run for a flasher.
    have hplan : plan.flash = (!noFlash && target.flasher.isSome) :=
      congrArg (!noFlash && ·) hagrees.isSome_flashImage
    refine ⟨?_, fun w => ?_, config, entry, hload, hentry, hagrees, ?_⟩
    · rw [runTests_eq, bind_run, h]
    · rw [Run.execute_eq_executeWith (by rw [hplan]; simp)]
      cases noFlash with
      | true => simp [hplan]
      | false => cases hflasher : target.flasher <;> simp [hplan, hflasher]
    · rcases htests with ⟨-, hnone⟩ | htests
      · rw [hnone]
        exact nofun
      · exact Config.testsFor_eq_ok htests
  · intro choices own d d' w h
    obtain ⟨_, _, hget, hopen⟩ := bind_ok_iff.1 h
    cases hget
    obtain ⟨config, _, hload, hopen⟩ := bind_ok_iff.1 hopen
    obtain ⟨name, entry, hentry, hagrees⟩ := openTarget_agrees hopen
    refine ⟨?_, fun hflasher watcher => ?_, config, name, entry, ofExcept_ok hload, hentry, hagrees⟩
    · rw [flashBoard_eq, bind_run, h, ← hagrees.isSome_flashImage]
    · exact Run.execute_eq_executeWith (fun _ => hflasher) watcher []

end CommandLine

end

/-! ## A target with everything -/

namespace CommandLine

open Command

/-- A test with an application that silences the kernel but enters no shell. -/
def equippedTestText : String :=
  "tests=[\x7bname='t',command='c',shell=false,suppress_kernel_log=true,apps=[['a','s','i','i',true]]\x7d]\n"

/-- A target that can be programmed and loaded. -/
def equippedTargetText : String :=
  "[targets.e]\nemulator.program='true'\nphoenixd=['p',1,'d']\nflash_image=['plain','f','s','m']\nram_window=['r',0,1]"

def equippedText : String := equippedTestText ++ equippedTargetText

def equippedEntry : TargetEntry where
  emulator := some ⟨"true", [], none⟩
  ramWindow := some ⟨"r", 0, 1⟩
  flashImage := some (.plain ⟨"f", "s", "m"⟩)
  fileServer := some ⟨"p", 1, "d"⟩

def equippedTest : TestEntry where
  name := "t"
  command := some "c"
  expect := []
  regex := false
  shell := false
  prompt := none
  timeout := none
  ignore := false
  suppressKernelLog := true
  targets := []
  apps := [⟨"a", "s", "i", "i", true⟩]
  bootloader := false

def equippedConfig : Config := { targets := [("e", equippedEntry)], tests := [equippedTest] }

/-- A bench with a configuration in the file `c`. -/
def configBench (text : String) : Sim.World :=
  { files := { Sim.FileTree.empty with
      nodes := (["bench", "c"], .file (Bytes.ofText text) false) :: Sim.FileTree.empty.nodes } }

theorem configBench_locate (text : String) :
    (configBench text).files.locate "c" = .found ["bench", "c"] (.file (Bytes.ofText text) false) := by
  have hsteps : Text.Path.steps "c" = ["c"] := by cbv
  have habsolute : Text.Path.isAbsolute "c" = false := by cbv
  simp only [Sim.FileTree.locate, Sim.FileTree.locateFrom, Sim.FileTree.origin, hsteps, habsolute]
  rfl

theorem configBench_load {text : String} {config : Config} (own : Option String)
    (hdecode : Text.decode? (Bytes.ofText text) = some text)
    (hparse : (Toml.read? text).bind Config.ofJson? = some config) :
    Config.load (some "c") own (configBench text) = .ok config := by
  refine load_of_text ?_ ?_ hdecode hparse
  · show (configBench text).files.isThere "c" = true
    rw [Sim.FileTree.isThere, configBench_locate]
  · show (configBench text).files.read "c" = _
    rw [Sim.FileTree.read, configBench_locate]

theorem equippedConfig_load :
    Config.load stoppedChoices.configFile none (configBench equippedText) = .ok equippedConfig := by
  refine configBench_load none ?_ ?_
  · rw [equippedText, equippedTestText, equippedTargetText, ← String.ofList_append, ofText_ofList]
    decide +kernel
  · rw [equippedText, equippedTestText, equippedTargetText, ← String.ofList_append, read?_ofList]
    decide +kernel

theorem equipped_openRun : ∃ o d,
    (openRun stoppedChoices none false []).run (configBench equippedText) = (.ok o, d) := by
  refine exists_of_isOk ?_
  rw [openRun, load_bind_run equippedConfig_load]
  -- What the file holds has been read, and would be evaluated again.
  unfold configBench
  generalize Bytes.ofText equippedText = bytes
  cbv

theorem equipped_tests {o : Opened Sim.World} {d : Sim.World}
    (h : (openRun stoppedChoices none false []).run (configBench equippedText) = (.ok o, d)) :
    o.tests ≠ [] := by
  obtain ⟨_, entry, -, hload, htarget, ⟨hno, -⟩ | htests, -⟩ := openRun_eq_ok h
  · cases hno
  cases equippedConfig_load.symm.trans hload
  obtain ⟨hname, -⟩ : "e" = o.name ∧ equippedEntry = entry := Prod.mk.inj (Except.ok.inj htarget)
  have hlength : (equippedConfig.testsFor "e" []).map (fun tests : List (Test Sim.World) =>
      tests.length) = .ok 1 := by cbv
  rw [hname, htests] at hlength
  intro hnil
  rw [hnil] at hlength
  cases hlength

theorem equipped_openFlash : ∃ w d,
    (openFlash stoppedChoices none).run (configBench equippedText) = (.ok w, d) := by
  refine exists_of_isOk ?_
  rw [openFlash, load_bind_run equippedConfig_load]
  unfold configBench
  generalize Bytes.ofText equippedText = bytes
  cbv

/-- A target with everything is programmed and loaded, and a test that it has a window for still misfits. -/
theorem opened_agree_equipped :
    let bench := configBench equippedText
    (∃ o d, (openRun stoppedChoices none false []).run bench = (.ok o, d) ∧
      o.workplace.target.flasher.isSome ∧ o.workplace.target.loader.isSome ∧ o.tests ≠ [] ∧
      ∀ t ∈ o.tests, t.Misfits o.workplace.target) ∧
    (∃ w d, (openFlash stoppedChoices none).run bench = (.ok w, d) ∧
      (flashBoard stoppedChoices none).run bench = (w.program false).run d) ∧
    ∃ port described rebooter, ∃ (d d' : Sim.World) (t : Target Sim.World),
      equippedEntry.resolve "e" port = .ok described ∧ Target.open described rebooter d = (.ok t, d') ∧
        t.flasher.isSome ∧ t.loader.isSome := by
  intro bench
  obtain ⟨hopens, hruns, hflashes⟩ := opened_agree (δ := Sim.World)
  refine ⟨?_, ?_, ?_⟩
  · obtain ⟨o, d, hopen⟩ := equipped_openRun
    obtain ⟨-, -, config, entry, hload, htarget, hagrees, htests⟩ :=
      hruns stoppedChoices none false false false [] bench d o hopen
    cases equippedConfig_load.symm.trans hload
    obtain ⟨-, rfl⟩ : "e" = o.name ∧ equippedEntry = entry := Prod.mk.inj (Except.ok.inj htarget)
    refine ⟨o, d, hopen, hagrees.flasher.2 rfl, hagrees.loader.2 rfl, equipped_tests hopen,
      fun t ht => ?_⟩
    obtain ⟨test, hmem, hresolve⟩ := htests t ht
    obtain rfl : test = equippedTest := List.mem_singleton.1 hmem
    exact (hagrees.misfits _ t t hresolve nofun (.refl t)).2 (.inr ⟨rfl, rfl⟩)
  · obtain ⟨w, d, hopen⟩ := equipped_openFlash
    obtain ⟨hflash, -, config, name, entry, hload, htarget, hagrees⟩ :=
      hflashes stoppedChoices none bench d w hopen
    cases equippedConfig_load.symm.trans hload
    obtain ⟨-, rfl⟩ : "e" = name ∧ equippedEntry = entry := Prod.mk.inj (Except.ok.inj htarget)
    rw [if_pos (hagrees.flasher.2 rfl)] at hflash
    exact ⟨w, d, hopen, hflash⟩
  · obtain ⟨o, d, hopen⟩ := equipped_openRun
    obtain ⟨config, _, _, hload, -, -, hopen⟩ := openRun_eq_ok hopen
    cases equippedConfig_load.symm.trans hload
    obtain ⟨name, entry, port, described, strategy, d₁, d₂, htarget, hdescribed, hopen⟩ :=
      openTarget_eq_ok hopen
    obtain ⟨rfl, rfl⟩ : "e" = name ∧ equippedEntry = entry := Prod.mk.inj (Except.ok.inj htarget)
    obtain ⟨hflasher, hloader⟩ := hopens _ _ _ _ _ _ _ _ hdescribed hopen
    exact ⟨port, described, _, d₁, d₂, _, hdescribed, hopen, hflasher.2 rfl, hloader.2 rfl⟩

end CommandLine
end BoardBench
