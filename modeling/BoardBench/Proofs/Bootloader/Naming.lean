import BoardBench.Proofs.Bootloader.Exiting
import BoardBench.Proofs.Bootloader.ReportedErrors
import BoardBench.Proofs.Session.Breaking
import Mathlib

/-!
# Which command an error names

An operation that fails says which command went wrong, unless the port failed under it. `Tells cmd j e`
says that of an error after the calls `j`. Each part of a dialogue tells of the line that it is about, so
an operation tells of its own command, with one exception: where the confirmation of an erase is not
echoed as it should be, the error tells of the confirmation (`Operation.blames_command`). It names that
line already when the command of the erase is to be put in, and a name that is there stays.
-/

namespace BoardBench

namespace Error

theorem OfMachine.withCommand {e : Error} (h : e.OfMachine) (cmd : String) :
    e.withCommand cmd = e := by
  cases h <;> rfl

theorem OfStream.withCommand {e : Error} (h : e.OfStream) (cmd : String) :
    ∃ reason output, e.withCommand cmd = .device cmd reason output := by
  cases h <;> exact ⟨_, _, rfl⟩

/-- A command that is named stays named. -/
theorem withCommand_device {command : String} (h : command ≠ "") (reason output cmd : String) :
    (device command reason output).withCommand cmd = .device command reason output := by
  unfold withCommand
  split <;> rename_i heq
  · cases heq
  · cases heq
  · cases heq
    exact absurd rfl h
  · rfl

/-- An error that a command was put into is none of a stream. -/
theorem not_ofStream_withCommand (e : Error) (cmd : String) : ¬ (e.withCommand cmd).OfStream := by
  intro h
  unfold withCommand at h
  split at h
  · cases h
  · cases h
  · cases h
  · rename_i hlate hended _
    cases h with
    | late patterns timeout before => exact hlate patterns timeout before rfl
    | ended patterns before => exact hended patterns before rfl

end Error

namespace Bootloader

open Journal Session

/-- The error is one of the device that names the command, or else the port failed and the error is
what became of that. -/
inductive Tells (cmd : String) (j : Journal) : Error → Prop
  | device (reason output : String) : Tells cmd j (.device cmd reason output)
  | port {cause e : Error} : BreaksOff j cause → (cause.OfMachine → e = cause) → ¬ e.OfStream →
      Tells cmd j e

theorem Tells.withCommand {named : String} {j : Journal} {e : Error} (h : Tells named j e)
    (hnamed : named ≠ "") (cmd : String) : Tells named j (e.withCommand cmd) := by
  cases h with
  | device reason output =>
    rw [Error.withCommand_device hnamed]
    exact .device reason output
  | port hbroken hcause _ =>
    refine .port hbroken (fun hmachine => ?_) (e.not_ofStream_withCommand cmd)
    rw [hcause hmachine]
    exact hmachine.withCommand cmd

theorem Tells.not_ofStream {named : String} {j : Journal} {e : Error} (h : Tells named j e) :
    ¬ e.OfStream := by
  cases h with
  | device _ _ => exact nofun
  | port _ _ hstream => exact hstream

namespace Client

variable {δ : Type} [Bench δ] [Transport δ] {s s' : Session (Recorded δ)} {e : Error}

/-! ## Parts of a dialogue -/

theorem tells_withCommand {ps : List Pattern} {timeout : Span}
    (h : Session.expect ps timeout s = (.error e, s')) (cmd : String) :
    Tells cmd s'.device.journal (e.withCommand cmd) := by
  rcases expect_breaksOff h with hbroken | hstream
  · exact .port hbroken (fun hcause => hcause.withCommand cmd) (e.not_ofStream_withCommand cmd)
  · obtain ⟨reason, output, hdevice⟩ := hstream.withCommand cmd
    rw [hdevice]
    exact .device reason output

theorem tells_unreported {ps : List Pattern} {timeout : Span}
    (h : Session.expect ps timeout s = (.error e, s')) (cmd : String) (i : Nat) :
    Tells cmd s'.device.journal (unreported cmd i e) := by
  rcases expect_breaksOff h with hbroken | hstream
  · refine .port hbroken (fun hcause => ?_) fun hstream => ?_
    · cases hcause <;> rfl
    · cases e <;> cases hstream
  · cases hstream <;> exact .device _ _

theorem EchoRun.tells {cmd : String} (h : EchoRun cmd s (.error e) s') :
    Tells cmd s'.device.journal e := by
  cases h with
  | unsent hsend =>
    obtain ⟨hbroken, f, rfl⟩ := send_breaksOff hsend
    exact .port hbroken (fun _ => rfl) nofun
  | noEcho _ hecho => exact tells_withCommand hecho cmd
  | early _ _ _ => exact .device _ _
  | noEnd _ _ _ hend => exact tells_withCommand hend cmd
  | longer _ _ _ _ _ => exact .device _ _

theorem MarkerRun.tells {marker : String} {timeout : Span} {cmd : String}
    (h : MarkerRun marker timeout cmd s (.error e) s') : Tells cmd s'.device.journal e := by
  cases h with
  | missing hwait => exact tells_withCommand hwait cmd
  | refused _ _ => exact .device _ _

/-- The wait for the prompt names no command, so that of the operation is put in. -/
theorem PromptRun.tells {timeout : Span} (h : PromptRun timeout s (.error e) s') (cmd : String) :
    Tells cmd s'.device.journal (e.withCommand cmd) := by
  cases h with
  | noPrompt hwait => exact tells_withCommand hwait cmd
  | reported _ _ => exact .device _ _

theorem BlockRun.tells {spec : JffsImage} {cmd : String} {i : Nat}
    (h : BlockRun spec cmd i s (.error e) s') : Tells cmd s'.device.journal e := by
  cases h with
  | missing hwait => exact tells_unreported hwait cmd i
  | foreign _ _ => exact .device _ _
  | misplaced _ _ _ => exact .device _ _

variable {c c' : Client (Recorded δ)}

theorem sendCommand_tells {cmd : String} (h : sendCommand cmd c = (.error e, c'))
    (hc : c.state ≠ .exited) : Tells cmd c'.session.device.journal e :=
  (sendCommand_run hc h).2.tells

theorem expectOrRefused_tells {marker : String} {timeout : Span} {cmd : String}
    (h : expectOrRefused marker timeout cmd c = (.error e, c')) :
    Tells cmd c'.session.device.journal e :=
  (expectOrRefused_run h).1.tells

theorem finishCommand_tells {cmd : String} {timeout : Span}
    (h : finishCommand cmd timeout c = (.error e, c')) : Tells cmd c'.session.device.journal e := by
  obtain hprompt | ⟨m, t, -, hpure⟩ := Act.bind_error_iff.1 h
  · obtain ⟨e', hrun, rfl⟩ := Act.mapError_error_iff.1 hprompt
    exact (assertPrompt_run hrun).1.tells cmd
  · cases hpure

theorem expectBlocks_tells {spec : JffsImage} {cmd : String} {progress : Nat → Nat → δ → δ}
    {left i : Nat} (h : expectBlocks spec cmd (Recorded.tell progress) left i c = (.error e, c')) :
    Tells cmd c'.session.device.journal e := by
  obtain ⟨ms, t, -, ⟨-, hok, -⟩ | ⟨-, e', t', hstop, he, rfl⟩⟩ := expectBlocks_run h
  · cases hok
  · cases he
    exact hstop.tells

theorem awaitWarning_tells {device : String} {offset size : Nat}
    (h : awaitWarning device offset size c = (.error e, c')) (hc : c.state ≠ .exited) :
    Tells (Command.erase device offset size).render c'.session.device.journal e := by
  obtain hnote | ⟨_, c₁, hnote, h⟩ := Act.bind_error_iff.1 h
  · cases hnote
  cases hnote
  obtain hsend | ⟨_, c₂, -, hmarker⟩ := Act.bind_error_iff.1 h
  · exact sendCommand_tells hsend hc
  · exact expectOrRefused_tells hmarker

theorem startFormat_tells {spec : JffsImage} (h : startFormat spec c = (.error e, c'))
    (hc : c.state ≠ .exited) :
    Tells (formatCommand spec).render c'.session.device.journal e := by
  obtain hnote | ⟨_, c₁, hnote, hsend⟩ := Act.bind_error_iff.1 h
  · cases hnote
  · cases hnote
    exact sendCommand_tells hsend hc

theorem awaitWarning_state {device : String} {offset size : Nat} (hc : c.state ≠ .exited)
    (h : awaitWarning device offset size c = (.ok (), c')) : c'.state ≠ .exited := by
  obtain ⟨_, c₁, hnote, h⟩ := Act.bind_ok_iff.1 h
  cases hnote
  obtain ⟨_, c₂, hsend, hmarker⟩ := Act.bind_ok_iff.1 h
  have hbusy : c₂.state = .busy := (sendCommand_run (x := .ok ()) (by exact hc) hsend).1
  rw [(expectOrRefused_run hmarker).2 rfl, hbusy]
  nofun

end Client

/-! ## Operations -/

open Client

namespace Operation

variable {δ : Type} [Bench δ] [Transport δ]

/-- The warning of an erase was read, and then its confirmation was not sent and echoed. -/
inductive Unconfirmed : Operation → Client δ → Prop
  | mk {device : String} {offset size : Nat} {timeout : Span} {c c₁ c₂ : Client δ} {e : Error} :
      awaitWarning device offset size c = (.ok (), c₁) →
      sendCommand confirmation c₁ = (.error e, c₂) →
      Unconfirmed (.erase device offset size timeout) c

/-- What an operation that made the calls `j` fails with. -/
inductive Blames (op : Operation) (c : Client δ) (j : Journal) : Error → Prop
  | exited : c.state = .exited → Blames op c j (Request.refusal op.line)
  | command {e : Error} : c.state ≠ .exited → ¬ op.Unconfirmed c → Tells op.line j e →
      Blames op c j e
  | confirmation {e : Error} : op.Unconfirmed c → Tells confirmation j e → Blames op c j e

variable {progress : Nat → Nat → δ → δ} {op : Operation} {c c' : Client (Recorded δ)} {e : Error}

/-- An opening that succeeds was confirmed, if it had to be. -/
theorem not_unconfirmed_of_opening
    (h : op.opening (Recorded.tell progress) c = (.ok (), c')) : ¬ op.Unconfirmed c := by
  rintro ⟨hwait, hsend⟩
  obtain ⟨_, c₁, hwait', herased⟩ := Act.bind_ok_iff.1 h
  cases hwait.symm.trans hwait'
  obtain ⟨_, c₂, hconfirm, -⟩ := Act.bind_ok_iff.1 herased
  cases hsend.symm.trans (Act.mapError_ok_iff.1 hconfirm)

theorem opening_blames (hc : c.state ≠ .exited)
    (h : op.opening (Recorded.tell progress) c = (.error e, c')) :
    Blames op c c'.session.device.journal e := by
  by_cases hop : op.single = true
  · rw [opening_of_single hop] at h
    refine .command hc (fun hun => ?_) (sendCommand_tells h hc)
    cases hun
    cases hop
  cases op with
  | erase device offset size timeout =>
    obtain hwait | ⟨_, c₁, hwait, herased⟩ := Act.bind_error_iff.1 h
    · refine .command hc ?_ (awaitWarning_tells hwait hc)
      rintro ⟨hwait', -⟩
      cases hwait.symm.trans hwait'
    have hc₁ := awaitWarning_state hc hwait
    obtain hconfirm | ⟨_, c₂, hconfirm, hmarker⟩ := Act.bind_error_iff.1 herased
    · -- the confirmation is named already
      obtain ⟨e', hsend, rfl⟩ := Act.mapError_error_iff.1 hconfirm
      exact .confirmation ⟨hwait, hsend⟩
        ((sendCommand_tells hsend hc₁).withCommand (by decide) _)
    · refine .command hc ?_ (expectOrRefused_tells hmarker)
      rintro ⟨hwait', hsend⟩
      cases hwait.symm.trans hwait'
      cases hsend.symm.trans (Act.mapError_ok_iff.1 hconfirm)
  | format spec =>
    refine .command hc nofun ?_
    obtain hstart | ⟨_, c₁, -, hblocks⟩ := Act.bind_error_iff.1 h
    · exact startFormat_tells hstart hc
    · exact expectBlocks_tells hblocks
  | _ => exact absurd rfl hop

theorem perform_exited (hc : c.state = .exited)
    (h : op.perform (Recorded.tell progress) c = (.error e, c')) : e = Request.refusal op.line := by
  have hrequest : (Request.operate op).perform (Recorded.tell progress) c =
      ((op.perform (Recorded.tell progress) c).1.map fun _ => none,
        (op.perform (Recorded.tell progress) c).2) := Act.map_apply _ _ _
  have hcommand : (Request.operate op).command? = some op.line := rfl
  obtain ⟨r, hrefused, -⟩ := @Request.perform_refused _ _ _ (Recorded.tell progress) _ _ _ hc hcommand
  rw [h] at hrequest
  cases hrequest.symm.trans hrefused
  rfl

theorem perform_blames (h : op.perform (Recorded.tell progress) c = (.error e, c')) :
    Blames op c c'.session.device.journal e := by
  by_cases hc : c.state = .exited
  · rw [perform_exited hc h]
    exact .exited hc
  rw [perform_eq] at h
  obtain hopen | ⟨_, c₁, hopen, hfinish⟩ := Act.bind_error_iff.1 h
  · exact opening_blames hc hopen
  · exact .command hc (not_unconfirmed_of_opening hopen) (finishCommand_tells hfinish)

theorem Blames.not_ofStream {c : Client δ} {j : Journal} (h : Blames op c j e) : ¬ e.OfStream := by
  cases h with
  | exited _ => exact nofun
  | command _ _ htells => exact htells.not_ofStream
  | confirmation _ htells => exact htells.not_ofStream

/-- An operation that fails names its own command, unless the port failed or the system had been started
already, or it is an erase and its confirmation was not echoed: then the confirmation is named. It never
fails with a bare error of the stream. -/
theorem blames_command {c c' : Client δ} (h : op.perform progress c = (.error e, c')) :
    ¬ e.OfStream ∧ ∃ r, op.perform (Recorded.tell progress) c.recorded = (.error e, r) ∧
      r.plain = c' ∧ Blames op c.recorded r.session.device.journal e := by
  rcases hrun : op.perform (Recorded.tell progress) c.recorded with ⟨x, r⟩
  have hmirror : op.perform progress c = (x, r.plain) := by
    have hm := @perform_mirrors δ _ _ progress op c.recorded
    rwa [hrun] at hm
  cases h.symm.trans hmirror
  have hblames := perform_blames hrun
  exact ⟨hblames.not_ofStream, r, rfl, rfl, hblames⟩

/-- A client that has read the warning, and then something before the echo of the confirmation. -/
def noisyClient : Client Sim.World :=
  ⟨⟨{}, Bytes.ofText "erase f 0x0 0x1\r\n" ++ Bytes.ofText dataLossWarning ++
    Bytes.ofText "\r\nnoise YES!\r\n", none, false⟩, .promptReady⟩

theorem blames_command_noisy :
    let op := Operation.erase "f" 0 1 (.ofSeconds 1)
    let e := Error.device confirmation "unexpected output before command echo" "\r\nnoise "
    let run := op.perform (Recorded.tell fun _ _ w => w) noisyClient.recorded
    (op.perform (fun _ _ w => w) noisyClient).1 = .error e ∧ run.1 = .error e ∧
      Blames op noisyClient.recorded run.2.session.device.journal e := by
  intro op e run
  have hline : (Command.erase "f" 0 1).render = "erase f 0x0 0x1" := by decide
  have hrun : (Client.erase "f" 0 1 (.ofSeconds 1) noisyClient).1 = .error e := by
    unfold Client.erase
    simp only [hline]
    generalize "Erasing " ++ "f" ++ " " ++ Text.hex0x 0 ++ "+" ++ Text.hex0x 1 = text
    cbv
  have hperform : op.perform (fun _ _ w => w) noisyClient =
      (.error e, (Client.erase "f" 0 1 (.ofSeconds 1) noisyClient).2) := Prod.ext hrun rfl
  obtain ⟨-, r, hr, -, hblames⟩ := blames_command hperform
  refine ⟨hrun, congrArg Prod.fst hr, ?_⟩
  rwa [show run = (.error e, r) from hr]

end Operation
end Bootloader
end BoardBench
