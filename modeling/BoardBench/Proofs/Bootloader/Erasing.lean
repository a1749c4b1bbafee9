import BoardBench.Proofs.Bootloader.Dialogue
import BoardBench.Proofs.Bootloader.Recording

/-!
# Erasing only after the warning

An erase is two dialogues. `awaitWarning` sends the command and waits for the warning, `confirmErase`
sends the confirmation and waits for the end. Whatever the device does, nothing of the confirmation is
written before the first has succeeded, and then the warning was read behind the echo of this very
command, with no prompt in between (`erase_confirms_after_warning`).
-/

namespace BoardBench.Bootloader.Client

open Journal Session

variable {δ : Type} [Bench δ] [Transport δ]

/-- The first part of an erase. -/
def awaitWarning (device : String) (offset size : Nat) : Act (Client δ) Unit := do
  let cmd := (Command.erase device offset size).render
  note ("Erasing " ++ device ++ " " ++ Text.hex0x offset ++ "+" ++ Text.hex0x size)
  sendCommand cmd
  expectOrRefused dataLossWarning eraseConfirmTimeout cmd

/-- The second part of an erase, up to its prompt. -/
def awaitErased (cmd : String) (timeout : Span) : Act (Client δ) Unit := do
  (sendCommand confirmation).mapError (·.withCommand cmd)
  expectOrRefused erased timeout cmd

/-- The second part of an erase. -/
def confirmErase (cmd : String) (timeout : Span) : Act (Client δ) Unit := do
  awaitErased cmd timeout
  finishCommand cmd promptTimeout

theorem erase_eq (device : String) (offset size : Nat) (timeout : Span) :
    (erase device offset size timeout : Act (Client δ) Unit) =
      awaitWarning device offset size >>= fun _ =>
        confirmErase (Command.erase device offset size).render timeout := by
  unfold erase awaitWarning confirmErase awaitErased finishCommand
  simp only [Act.bind_assoc]

theorem awaitWarning_does (device : String) (offset size : Nat) :
    Does (awaitWarning device offset size : Act (Client (Recorded δ)) Unit)
      (Bytes.ofText (Command.erase device offset size).render ++ lineEnd) []
      fun _ bytes => ∃ e o, Echo (Bytes.ofText (Command.erase device offset size).render) e ∧
        ¬ Occurs prompt o ∧ bytes = e ++ o ++ Bytes.ofText dataLossWarning := by
  have h := (note_does (δ := δ)
      ("Erasing " ++ device ++ " " ++ Text.hex0x offset ++ "+" ++ Text.hex0x size)).bind fun _ =>
    (sendCommand_does (Command.erase device offset size).render).bind fun _ =>
      expectOrRefused_does dataLossWarning eraseConfirmTimeout
        (Command.erase device offset size).render
  rw [List.nil_append, List.append_nil] at h
  refine h.mono fun _ bytes => ?_
  rintro ⟨_, _, _, rfl, rfl, _, e, _, rfl, he, o, rfl, ho⟩
  exact ⟨e, o, he, ho, by simp⟩

theorem awaitErased_does (cmd : String) (timeout : Span) :
    Does (awaitErased cmd timeout : Act (Client (Recorded δ)) Unit)
      (Bytes.ofText confirmation ++ lineEnd) []
      fun _ bytes => ∃ e o, Echo (Bytes.ofText confirmation) e ∧ ¬ Occurs prompt o ∧
        bytes = e ++ o ++ Bytes.ofText erased := by
  have h := ((sendCommand_does (δ := δ) confirmation).mapError (·.withCommand cmd)).bind fun _ =>
    expectOrRefused_does erased timeout cmd
  simp only [List.append_nil] at h
  refine h.mono fun _ bytes => ?_
  rintro ⟨_, e, _, rfl, he, o, rfl, ho⟩
  exact ⟨e, o, he, ho, by simp⟩

theorem confirmErase_does (cmd : String) (timeout : Span) :
    Does (confirmErase cmd timeout : Act (Client (Recorded δ)) Unit)
      (Bytes.ofText confirmation ++ lineEnd) []
      fun _ bytes => ∃ e o o', Echo (Bytes.ofText confirmation) e ∧ ¬ Occurs prompt o ∧
        ¬ Occurs errorMarker o' ∧ bytes = e ++ o ++ Bytes.ofText erased ++ o' ++ prompt := by
  have h := (awaitErased_does (δ := δ) cmd timeout).bind fun _ =>
    finishCommand_does cmd promptTimeout
  simp only [List.append_nil] at h
  refine h.mono fun _ bytes => ?_
  rintro ⟨_, _, _, rfl, ⟨e, o, he, ho, rfl⟩, o', rfl, hmark, -⟩
  exact ⟨e, o, o', he, ho, hmark, by simp⟩

/-- The confirmation is written only after the warning, and an erase that succeeds had the whole
dialogue. -/
theorem erase_confirms_after_warning (device : String) (offset size : Nat) (timeout : Span)
    (c : Client δ) :
    let cmd := Bytes.ofText (Command.erase device offset size).render
    let yes := Bytes.ofText confirmation
    let run := erase device offset size timeout c.recorded
    erase device offset size timeout c = (run.1, run.2.plain) ∧
    ∃ j bytes, c.recorded.session.Exchanges ((cmd ++ lineEnd) ++ (yes ++ lineEnd)) [] j bytes
        run.2.session ∧
      (∀ p call q, j = p ++ call :: q → (cmd ++ lineEnd).length < (written (p ++ [call])).length →
        ∃ p₁ p₂ c₁ e o, p = p₁ ++ p₂ ∧ awaitWarning device offset size c.recorded = (.ok (), c₁) ∧
          c.recorded.session.Consumes p₁ (e ++ o ++ Bytes.ofText dataLossWarning) c₁.session ∧
          written p₁ = cmd ++ lineEnd ∧ Echo cmd e ∧ ¬ Occurs prompt o) ∧
      (run.1 = .ok () → written j = (cmd ++ lineEnd) ++ (yes ++ lineEnd) ∧
        ∃ e o e' o' o'', bytes = e ++ o ++ Bytes.ofText dataLossWarning ++ e' ++ o' ++
            Bytes.ofText erased ++ o'' ++ prompt ∧
          Echo cmd e ∧ ¬ Occurs prompt o ∧ Echo yes e' ∧ ¬ Occurs prompt o' ∧
          ¬ Occurs errorMarker o'') := by
  intro cmd yes run
  refine ⟨erase_mirrors device offset size timeout c.recorded, ?_⟩
  rcases h : run with ⟨x, c'⟩
  replace h : erase device offset size timeout c.recorded = (x, c') := h
  rw [erase_eq] at h
  rcases Act.bind_eq_iff.1 h with ⟨e, hwait, rfl⟩ | ⟨_, c₁, hwait, hconfirm⟩
  · -- the warning did not come: nothing beyond the first line
    obtain ⟨j, bytes, hj, -⟩ := awaitWarning_does device offset size c.recorded _ c' hwait
    refine ⟨j, bytes, hj.mono _ [], fun p call q hpq hlen => ?_, nofun⟩
    subst hpq
    exact absurd hj.written_le (Nat.not_le.2 hlen)
  · obtain ⟨j, bytes, hj, hok⟩ := awaitWarning_does device offset size c.recorded _ c₁ hwait
    obtain ⟨hw, ht, e, o, he, ho, rfl⟩ := hok () rfl
    obtain ⟨k, bytes', hk, hok'⟩ := confirmErase_does _ timeout c₁ x c' hconfirm
    refine ⟨j ++ k, _, hj.trans hw ht hk, fun p call q hpq hlen => ?_, fun hx => ?_⟩
    · -- a call that goes past the first line is not one of the first part
      obtain ⟨p₂, rfl⟩ : ∃ p₂, p = j ++ p₂ := by
        rcases List.append_eq_append_iff.1 hpq with ⟨p₂, hp, -⟩ | ⟨l, rfl, hl⟩
        · exact ⟨p₂, hp⟩
        · rcases List.cons_eq_append_iff.1 hl with ⟨rfl, -⟩ | ⟨l', rfl, -⟩
          · exact ⟨[], by simp⟩
          · exact absurd hj.written_le (Nat.not_le.2 hlen)
      exact ⟨j, p₂, c₁, e, o, rfl, hwait, hj.toConsumes, hw, he, ho⟩
    · obtain ⟨hw', -, e', o', o'', he', ho', hmark, rfl⟩ := hok' () hx
      refine ⟨by rw [written_append, hw, hw'], e, o, e', o', o'', by simp, he, ho, he', ho', hmark⟩

end BoardBench.Bootloader.Client
