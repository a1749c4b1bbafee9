import BoardBench.Proofs.Programming.Script
import BoardBench.Proofs.Programming.Staging
import BoardBench.Proofs.Reboot.Steps
import BoardBench.Proofs.Runner.Accounting

/-!
# Which errors escape a run

On a transport that fails as machines do, only a reboot raises an error that ends a test's run: what
goes wrong in any other stage of a test that a configuration asks for ends that test alone
(`Stage.run_minor`, `Run.RaisesFatal.isReboot`). Programming the board fails with an error of flashing, or
with one of the rebooter (`Target.flash_fails`).
-/

namespace BoardBench

open Act Transport Bootloader

/-- An error of a reboot. -/
def Error.IsReboot (e : Error) : Prop := ∃ reason, e = .reboot reason

variable {δ : Type} [Bench δ] [Transport δ]

/-! ## At the prompt of the bootloader -/

namespace Bootloader.Client

omit [Bench δ] [Transport δ] in
theorem onSession_fails {α : Type} {P : Error → Prop} {x : Act (Session δ) α} (h : FailsOnly P x) :
    FailsOnly P (onSession x) := .zoom h

theorem expect_minor (hδ : FailsAsMachine δ) (ps : List Pattern) (timeout : Span) :
    FailsOnly Error.Minor (expect ps timeout : Act (Client δ) Match) :=
  onSession_fails (Session.expect_minor hδ ps timeout)

theorem sendLine_minor (hδ : FailsAsMachine δ) (line : String) :
    FailsOnly Error.Minor (sendLine line : Act (Client δ) Unit) :=
  onSession_fails (Session.sendLine_minor hδ _)

theorem enterBootloader_minor (hδ : FailsAsMachine δ) :
    FailsOnly Error.Minor (enterBootloader : Act (Client δ) Unit) := by
  have hwait : FailsOnly Error.Minor (waitPrompt promptTimeout : Act (Client δ) Match) :=
    (expect_minor hδ _ _).bind fun _ => (FailsOnly.change _).bind fun _ => .pure _
  exact (expect_minor hδ _ _).bind fun _ => (sendLine_minor hδ _).bind fun _ => hwait.bind fun _ =>
    FailsOnly.state.bind fun _ => onSession_fails (Session.note_fails _ _)

theorem exitToOs_minor (hδ : FailsAsMachine δ) :
    FailsOnly Error.Minor (exitToOs : Act (Client δ) Unit) :=
  FailsOnly.bind (onSession_fails (Session.note_fails _ _)) fun _ =>
    (sendLine_minor hδ _).bind fun _ => .change _

omit [Bench δ] [Transport δ] in
theorem within_fails {α : Type} {P : Error → Prop} {x : Act (Client δ) α} (h : FailsOnly P x) :
    FailsOnly P (within x) := by
  intro s e s' hx
  obtain ⟨c, hc, -⟩ := within_eq_iff.1 hx
  exact h _ e c hc

end Bootloader.Client

variable [Processes δ] [Files δ]

/-- Loading applications fails with an error of flashing, or because the window is no window. -/
theorem Loader.ofWindow_minor (w : RamWindow) (server : HelperSpec) (copyTimeout : Span)
    (apps : List AppSpec) :
    FailsOnly Error.Minor ((Loader.ofWindow w server copyTimeout).load apps : Act (Client δ) Unit) := by
  cases apps with
  | nil => exact .change id
  | cons app rest =>
    rw [load_cons]
    refine FailsOnly.bind (.ofExcept fun e he => ?_) fun finish c e c' h => ?_
    · unfold RamWindow.end? at he
      split at he <;> cases he
      rfl
    · have hmirror := loadInto_mirrors w finish server copyTimeout (app :: rest) c.chronicled
      rcases hrun : loadInto w finish server copyTimeout (app :: rest) c.chronicled with ⟨x, c₁⟩
      rw [hrun] at hmirror
      obtain ⟨hx, -⟩ := Prod.mk.inj (h.symm.trans hmirror)
      obtain ⟨_, _, rfl⟩ := (loadInto_run hrun).2 e hx.symm
      rfl

variable [Operator δ]

/-- A target whose ways to act on it are those that configurations can ask for. -/
structure Target.Standard (t : Target δ) : Prop where
  rebooter : ∃ strategy : Strategy δ, t.rebooter = strategy.rebooter
  flasher : ∀ f ∈ t.flasher, ∃ image server copyTimeout, f = .ofImage image server copyTimeout
  loader : ∀ l ∈ t.loader, ∃ window server copyTimeout, l = .ofWindow window server copyTimeout

/-- A test whose body is one that configurations can ask for. -/
def Test.Standard (t : Test δ) : Prop := ∃ command patterns, t.body = .expecting command patterns

omit [Processes δ] [Files δ] [Operator δ] in
theorem Test.Standard.of_is {t u : Test δ} (hu : u.Standard) (h : t.Is u) : t.Standard := by
  rw [Test.Is] at h
  rw [h]
  exact hu

namespace Strategy

theorem reboot_raises (strategy : Strategy δ) (options : RebootOptions) :
    FailsOnly (fun e => e.IsReboot ∨ Raises δ e) (strategy.rebooter.reboot options) := by
  intro s e s' h
  rw [reboot_eq] at h
  obtain ⟨step, hstep⟩ := Step.runAll_eq_error_iff.1 h
  have hraises := hstep.raises
  split at hraises
  · exact .inl hraises
  · exact .inr hraises

theorem reboot_fails (hδ : FailsAsMachine δ) (strategy : Strategy δ) (options : RebootOptions) :
    FailsOnly (fun e => e.IsReboot ∨ e.OfMachine) (strategy.rebooter.reboot options) :=
  (strategy.reboot_raises options).mono fun e => .imp_right (hδ e)

end Strategy

namespace Target.Standard

variable {target : Target δ}

theorem reboot_fails (hδ : FailsAsMachine δ) (ht : target.Standard) (options : RebootOptions) :
    FailsOnly (fun e => e.IsReboot ∨ e.OfMachine) (target.reboot options) := by
  obtain ⟨strategy, hstrategy⟩ := ht.rebooter
  refine FailsOnly.bind (Session.note_fails _ _) fun _ => ?_
  rw [hstrategy]
  exact strategy.reboot_fails hδ options

/-- What programming the board fails with, if there is something to program it with. -/
theorem flash_raises (ht : target.Standard) (hflasher : target.flasher.isSome) (progress : Progress δ) :
    FailsOnly (fun e => e.IsFlash ∨ e.IsReboot ∨ Raises δ e) (target.flash progress) := by
  unfold Target.flash
  split
  · rename_i hnone
    rw [hnone] at hflasher
    cases hflasher
  rename_i f hf
  refine FailsOnly.bind (Session.note_fails _ _) fun _ s e s' h => ?_
  obtain ⟨image, server, copyTimeout, rfl⟩ := ht.flasher f hf
  obtain ⟨strategy, hstrategy⟩ := ht.rebooter
  rw [hstrategy] at h
  rcases hreboot : strategy.rebooter.reboot .forFlash s with ⟨e' | _, s₁⟩
  · rw [flash_of_reboot_error hreboot] at h
    cases h
    exact .inr (strategy.reboot_raises _ s _ _ hreboot)
  · have hflash := h.symm.trans (flash_of_reboot hreboot).1
    exact .inl ((flash_of_reboot hreboot).2.2 e (congrArg Prod.fst hflash).symm)

/-- What programming the board can fail with. -/
theorem flash_fails (hδ : FailsAsMachine δ) (ht : target.Standard) (progress : Progress δ) :
    FailsOnly (fun e => e.IsFlash ∨ e.IsReboot ∨ e.OfMachine) (target.flash progress) := by
  cases hflasher : target.flasher with
  | none =>
    unfold Target.flash
    rw [hflasher]
    exact .fail (.inr (.inr (.unsupported _)))
  | some f =>
    refine (ht.flash_raises (hflasher ▸ rfl) progress).mono fun e => ?_
    exact .imp_right (.imp_right (hδ e))

end Target.Standard

/-! ## The stages of a test -/

omit [Bench δ] [Transport δ] [Processes δ] [Files δ] [Operator δ] in
theorem Trial.onSession_fails {α : Type} {P : Error → Prop} {x : Act (Session δ) α}
    (h : FailsOnly P x) : FailsOnly P (Trial.onSession x) := .zoom h

namespace Body

omit [Processes δ] [Files δ] [Operator δ]

theorem inContext_minor {e : Error} (h : e.Minor) (command : Option String) :
    (inContext command e).Minor := by
  cases command with
  | none => exact h
  | some c => exact h.withCommand c

theorem expectAll_minor (hδ : FailsAsMachine δ) (command : Option String) (timeout : Span)
    (ps : List Pattern) :
    FailsOnly Error.Minor (expectAll command timeout ps : Act (Session δ) Unit) := by
  induction ps with
  | nil => exact .pure ()
  | cons p ps ih =>
    exact ((Session.expect_minor hδ _ _).mapError fun e he => inContext_minor he command).bind
      fun _ => ih

theorem expecting_minor (hδ : FailsAsMachine δ) (command : Option String) (patterns : List Pattern)
    (timeout : Span) :
    FailsOnly Error.Minor ((expecting command patterns : Body δ).run timeout) := by
  refine Trial.onSession_fails ?_
  cases command with
  | none => exact FailsOnly.bind (.pure ()) fun _ => expectAll_minor hδ none timeout patterns
  | some c =>
    refine (Session.sendLine_minor hδ _).bind fun _ => FailsOnly.bind ?_ fun _ =>
      expectAll_minor hδ (some c) timeout patterns
    exact (Session.expect_minor hδ _ _).mapError fun e he => inContext_minor he (some c)

end Body

namespace Stage

variable {target : Target δ} {b : Body δ} {timeout : Span}

theorem passBootloader_minor (hδ : FailsAsMachine δ) (ht : target.Standard) (apps : List AppSpec) :
    FailsOnly Error.Minor (passBootloader target.loader apps) := by
  refine Client.within_fails ((Client.enterBootloader_minor hδ).bind fun _ => ?_)
  have hexit := Client.exitToOs_minor hδ
  split
  · exact hexit
  · split
    · rename_i l hl
      obtain ⟨window, server, copyTimeout, rfl⟩ := ht.loader l hl
      exact (Loader.ofWindow_minor window server copyTimeout apps).bind fun _ => hexit
    · exact FailsOnly.bind (.fail rfl) fun _ => hexit

/-- Only a reboot can end the whole run. -/
theorem run_minor (hδ : FailsAsMachine δ) (ht : target.Standard)
    (hb : FailsOnly Error.Minor (b.run timeout)) (stage : Stage) :
    FailsOnly (fun e => e.IsReboot ∨ e.Minor) (stage.run target b timeout) := by
  have minor {α : Type} {x : Act (Trial δ) α} (h : FailsOnly Error.Minor x) :
      FailsOnly (fun e => e.IsReboot ∨ e.Minor) x := h.mono fun _ => .inr
  cases stage with
  | reboot options =>
    have hreboot := (ht.reboot_fails hδ options).mono fun e he => he.imp id Error.OfMachine.minor
    exact (Trial.onSession_fails hreboot).bind fun _ => .pure true
  | bootloader apps =>
    exact minor ((Trial.onSession_fails (passBootloader_minor hδ ht apps)).bind fun _ => .pure true)
  | shell prompt bootup poke =>
    have hwait : FailsOnly Error.Minor (do
        let _ ← Session.expectExact (Bytes.ofText prompt) bootup
        return true : Act (Session δ) Bool) :=
      (Session.expect_minor hδ _ _).bind fun _ => .pure true
    refine minor (Trial.onSession_fails ?_)
    cases poke with
    | false => exact hwait
    | true => exact (Session.sendLine_minor hδ _).bind fun _ => hwait
  | kernelLog command prompt enable =>
    refine minor (Trial.onSession_fails ((Session.sendLine_minor hδ _).bind fun _ =>
      FailsOnly.bind ?_ fun _ => .pure true))
    exact (Session.expect_minor hδ _ _).mapError fun e he => he.withCommand command
  | body => exact minor (hb.bind fun _ => (FailsOnly.change _).bind fun _ => FailsOnly.state.bind
      fun _ => .pure _)
  | closingPrompt prompt =>
    refine minor (Trial.onSession_fails (FailsOnly.bind ?_ fun _ => .pure true))
    exact (Session.expect_minor hδ _ _).mapError fun e he => Body.inContext_minor he b.command

theorem Raises.reboot_or_minor (hδ : FailsAsMachine δ) (ht : target.Standard)
    (hb : FailsOnly Error.Minor (b.run timeout)) {stages : List Stage} {t t' : Trial δ} {e : Error}
    (h : Raises target b timeout stages t e t') : e.IsReboot ∨ e.Minor := by
  induction h with
  | here hstage => exact run_minor hδ ht hb _ _ _ _ hstage
  | later _ _ ih => exact ih

end Stage

/-- What ends a run in the middle of a test is an error of a reboot. -/
theorem Run.RaisesFatal.isReboot (hδ : FailsAsMachine δ) {target : Target δ} (ht : target.Standard)
    {t : Test δ} (hstandard : t.Standard) {s s' : Session δ} {e : Error}
    (h : RaisesFatal target t s e s') : e.IsReboot := by
  obtain ⟨stages, u, -, -, hraises, hfatal, -⟩ := h
  obtain ⟨command, patterns, hbody⟩ := hstandard
  have hb : FailsOnly Error.Minor (t.body.run t.timeout) := by
    rw [hbody]
    exact Body.expecting_minor hδ command patterns t.timeout
  obtain hreboot | hminor := hraises.reboot_or_minor hδ ht hb
  · exact hreboot
  · cases hfatal.symm.trans hminor

end BoardBench
