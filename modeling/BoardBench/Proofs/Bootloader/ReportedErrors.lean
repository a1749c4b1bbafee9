import BoardBench.Proofs.Bootloader.Erasing
import BoardBench.Proofs.Bootloader.Formatting
import BoardBench.Proofs.Bootloader.Operation

/-!
# Reported errors

Every operation that has the bootloader run a command is an opening and the wait for a prompt without
an error before it (`Operation.perform_eq`). Only what that last wait passes over is looked through. So
when an operation succeeds, an error was announced exactly if the announcement began in what the waits
of its opening passed over (`Operation.announced_iff`): that is nothing where the opening is the echo
alone, but in an erase it is all up to `Erased`, and in a format all up to the last report.
-/

namespace BoardBench.Bootloader

open Journal Session Client

namespace Operation

section actions

variable {δ : Type} [Bench δ] [Transport δ]

/-- All of the operation but the wait for its prompt. -/
def opening (progress : Nat → Nat → δ → δ) : Operation → Act (Client δ) Unit
  | erase device offset size timeout => do
    awaitWarning device offset size
    awaitErased (Command.erase device offset size).render timeout
  | format spec => do
    startFormat spec
    expectBlocks spec (formatCommand spec).render progress spec.cleanmarker.blockCount 0
  | op => sendCommand op.line

variable {progress : Nat → Nat → δ → δ} {op : Operation}

theorem perform_eq :
    op.perform progress = op.opening progress >>= fun _ => finishCommand op.line op.promptWait := by
  cases op with
  | erase device offset size timeout =>
    simp only [perform, opening, line, promptWait, erase_eq, confirmErase, Act.bind_assoc]
  | format spec =>
    simp only [perform, opening, line, promptWait, formatFilesystem_eq, Act.bind_assoc]
  | _ =>
    simp only [perform, opening, line, promptWait, Client.loadApp, Client.copyFileToMemory,
      Client.copy, Client.nameRange, Client.run, runCommand, finishCommand, Act.bind_assoc]

theorem opening_of_single (h : op.single = true) : op.opening progress = sendCommand op.line := by
  cases op with
  | erase _ _ _ _ => cases h
  | format _ => cases h
  | _ => rfl

end actions

/-- What the waits of an opening pass over behind the echo of the command, if `re` is the expression that
reports on blocks are awaited with. -/
inductive Passes (re : Regex) : Operation → Bytes → Prop
  | nothing {op : Operation} : op.single = true → Passes re op []
  | erase {device : String} {offset size : Nat} {timeout : Span} {e o o' : Bytes} :
      ¬ Occurs prompt o → Echo (Bytes.ofText confirmation) e → ¬ Occurs prompt o' →
      Passes re (.erase device offset size timeout)
        (o ++ Bytes.ofText dataLossWarning ++ (e ++ o' ++ Bytes.ofText erased))
  | format {spec : JffsImage} {ms : List Match} : ms.length = spec.cleanmarker.blockCount →
      (∀ k m, ms[k]? = some m → OnBlock spec.cleanmarker.blockCount k m) →
      (re.Leftmost ReportAt → Reports spec.cleanmarker.blockCount 0 (taken ms) ms []) →
      Passes re (.format spec) (taken ms)

theorem Passes.eq_nil {re : Regex} {op : Operation} {bytes : Bytes} (h : Passes re op bytes)
    (hop : op.single = true) : bytes = [] := by
  cases h with
  | nothing _ => rfl
  | erase _ _ _ => cases hop
  | format _ _ _ => cases hop

variable {δ : Type} [Bench δ] [Transport δ] {progress : Nat → Nat → δ → δ} {op : Operation}

/-- An opening that succeeds took the echo out of the stream, and what its other waits passed over. -/
theorem consumes_of_opening {c c' : Client (Recorded δ)}
    (h : op.opening (Recorded.tell progress) c = (.ok (), c')) :
    ∃ j echo passed, c.session.Consumes j (echo ++ passed) c'.session ∧
      Echo (Bytes.ofText op.line) echo ∧
        Passes (Bench.libraries δ).regexes.blockReport op passed := by
  by_cases hop : op.single = true
  · rw [opening_of_single hop] at h
    obtain ⟨j, echo, hj, hok⟩ := sendCommand_does op.line c _ c' h
    rw [← List.append_nil echo] at hj
    exact ⟨j, echo, [], hj.toConsumes, (hok () rfl).2.2, .nothing hop⟩
  cases op with
  | erase device offset size timeout =>
    obtain ⟨j, bytes, hj, hok⟩ :=
      (awaitWarning_does device offset size).bind (fun _ => awaitErased_does _ timeout) c _ c' h
    obtain ⟨-, -, -, _, _, rfl, ⟨e, o, he, ho, rfl⟩, e', o', he', ho', rfl⟩ := hok () rfl
    simp only [List.append_assoc e] at hj
    exact ⟨j, e, _, hj.toConsumes, he, .erase ho he' ho'⟩
  | format spec =>
    obtain ⟨_, c₁, hstart, hblocks⟩ := Act.bind_ok_iff.1 h
    obtain ⟨j, echo, hj, hok⟩ := startFormat_does spec c _ c₁ hstart
    obtain ⟨ms, s, hrounds, ⟨hlen, -, rfl⟩ | ⟨-, e, s', -, he, -⟩⟩ := expectBlocks_run hblocks
    · obtain ⟨k, hk, -, -⟩ := hrounds.consumes
      have hblocks : ∀ k m, ms[k]? = some m → OnBlock spec.cleanmarker.blockCount k m := fun k m hm =>
        Nat.zero_add k ▸ hrounds.onBlock k m hm
      exact ⟨j ++ k, echo, taken ms, hj.toConsumes.trans hk, (hok () rfl).2.2,
        .format hlen hblocks fun hfinds => hrounds.reports hfinds⟩
    · cases he
  | _ => exact absurd rfl hop

/-- If an operation succeeds, an error was announced between the echo and the prompt exactly if the
announcement began in what the opening passed over; so there was none if nothing is waited for between
the two. -/
theorem announced_iff {c c' : Client δ} (h : op.perform progress c = (.ok (), c')) :
    ∃ r, op.perform (Recorded.tell progress) c.recorded = (.ok (), r) ∧ r.plain = c' ∧
      ∃ c₁ j j' echo passed last, op.opening (Recorded.tell progress) c.recorded = (.ok (), c₁) ∧
        c.recorded.session.Consumes j (echo ++ passed) c₁.session ∧
        c₁.session.Consumes j' (last ++ prompt) r.session ∧
        Echo (Bytes.ofText op.line) echo ∧
        Passes (Bench.libraries δ).regexes.blockReport op passed ∧
        ¬ Occurs errorMarker last ∧ ¬ Occurs prompt last ∧
        (Occurs errorMarker (passed ++ last) ↔
          ∃ i < passed.length, OccursAt errorMarker (passed ++ last) i) ∧
        (op.single = true → ¬ Occurs errorMarker (passed ++ last)) := by
  rcases hrun : op.perform (Recorded.tell progress) c.recorded with ⟨x, r⟩
  have hmirror : op.perform progress c = (x, r.plain) := by
    have hm := @perform_mirrors δ _ _ progress op c.recorded
    rwa [hrun] at hm
  cases h.symm.trans hmirror
  refine ⟨r, rfl, rfl, ?_⟩
  rw [perform_eq] at hrun
  obtain ⟨_, c₁, hopen, hfinish⟩ := Act.bind_ok_iff.1 hrun
  obtain ⟨j, echo, passed, hj, hecho, hpassed⟩ := consumes_of_opening hopen
  obtain ⟨j', _, hj', hok⟩ := finishCommand_does op.line op.promptWait c₁ _ r hfinish
  obtain ⟨-, -, last, rfl, hmark, hprompt⟩ := hok () rfl
  have hiff : Occurs errorMarker (passed ++ last) ↔
      ∃ i < passed.length, OccursAt errorMarker (passed ++ last) i := by
    refine ⟨fun ⟨i, hi⟩ => ⟨i, Nat.lt_of_not_le fun hle => hmark ?_, hi⟩, fun ⟨i, _, hi⟩ => ⟨i, hi⟩⟩
    obtain ⟨k, rfl⟩ := Nat.exists_eq_add_of_le hle
    exact ⟨k, occursAt_append_right.1 hi⟩
  refine ⟨c₁, j, j', echo, passed, last, hopen, hj, hj'.toConsumes, hecho, hpassed, hmark, hprompt,
    hiff, fun hop hocc => ?_⟩
  obtain ⟨i, hi, -⟩ := hiff.1 hocc
  rw [hpassed.eq_nil hop] at hi
  exact Nat.not_lt_zero i hi

/-- What a board prints behind the echo that cannot erase one of the blocks. -/
def failedBlock : Bytes :=
  Bytes.ofText "\nSerious risk of data loss, type YES! to proceed.\r\nYES!\r\n" ++ errorMarker ++
    Bytes.ofText "block 0 failed\r\nErased\r\n"

/-- A client that has read all of it, up to the prompt. -/
def failedBlockClient : Client Sim.World :=
  ⟨⟨{}, Bytes.ofText "erase f 0x0 0x1" ++ [0x0D] ++ failedBlock ++ prompt, none, false⟩,
    .promptReady⟩

/-- An erase that succeeds although an error was announced. -/
theorem announced_iff_failed_block :
    (perform (fun _ _ w => w) (.erase "f" 0 1 (.ofSeconds 1)) failedBlockClient).1 = .ok () ∧
      ∃ echo passed last, failedBlockClient.session.buffer = echo ++ (passed ++ last) ++ prompt ∧
        Echo (Bytes.ofText "erase f 0x0 0x1") echo ∧ Occurs errorMarker (passed ++ last) ∧
        ∃ i < passed.length, OccursAt errorMarker (passed ++ last) i := by
  have hline : (Command.erase "f" 0 1).render = "erase f 0x0 0x1" := by decide
  have hrun : ∀ x, Client.erase "f" 0 1 (.ofSeconds 1) failedBlockClient.recorded = x →
      x.1 = .ok () ∧ x.2.session.buffer = [] ∧ received x.2.session.device.journal = [] := by
    unfold Client.erase
    simp only [hline]
    generalize "Erasing " ++ "f" ++ " " ++ Text.hex0x 0 ++ "+" ++ Text.hex0x 1 = text
    rintro _ rfl
    refine ⟨?_, ?_, ?_⟩ <;> cbv
  have hplain : (perform (fun _ _ w => w) (.erase "f" 0 1 (.ofSeconds 1))
      failedBlockClient).1 = .ok () :=
    (congrArg Prod.fst (erase_mirrors "f" 0 1 (.ofSeconds 1) failedBlockClient.recorded)).trans
      (hrun _ rfl).1
  obtain ⟨r, hr, -, c₁, j, j', echo, passed, last, -, hj, hj', hecho, -, -, -, hiff, -⟩ :=
    announced_iff (c := failedBlockClient) (Prod.ext hplain rfl)
  obtain ⟨-, hbuffer, hreceived⟩ := hrun _ hr
  -- nothing was read, so all of it was in the buffer
  have hnone : received (j ++ j') = [] := by
    rw [← List.nil_append (j ++ j'), ← hreceived]
    exact (congrArg received (hj.trans hj').journal).symm
  have hstream : failedBlockClient.session.buffer = echo ++ (passed ++ last) ++ prompt := by
    have h := (hj.trans hj').stream
    rw [hnone, hbuffer, List.append_nil, List.append_nil] at h
    exact h.trans (by simp)
  replace hecho : Echo (Bytes.ofText "erase f 0x0 0x1") echo := hline ▸ hecho
  have hbehind : passed ++ last = failedBlock := by
    cases hecho with | @mk blanks t hblank ht =>
    cases blanks with
    | cons b bs =>
      obtain rfl : b = 0x65 := Option.some.inj ((congrArg List.head? hstream).symm.trans (by decide))
      exact absurd (hblank _ List.mem_cons_self) (by decide)
    | nil => exact (List.append_inj (List.append_cancel_right hstream) (by simp)).2.symm
  have hocc : Occurs errorMarker (passed ++ last) := hbehind ▸ ⟨_, _, _, rfl, rfl⟩
  exact ⟨hplain, echo, passed, last, hstream, hecho, hocc, hiff.1 hocc⟩

end Operation
end BoardBench.Bootloader
