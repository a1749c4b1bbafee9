import BoardBench.Proofs.Bootloader.Dialogue
import BoardBench.Proofs.Bootloader.Recording
import BoardBench.Proofs.Bootloader.Report
import BoardBench.Proofs.Regex.BlockReport
import BoardBench.Sim.World
import Mathlib

/-!
# Formatting block by block

A format is a dialogue that opens (`startFormat`), a round for each block, and a last prompt. `Rounds`
are the first rounds that went well: each report came in time, was on the next block and on the right
number of blocks, and was passed on. `expectBlocks` makes as many rounds as there can be and fails in
the one after them (`expectBlocks_run`). So the caller is told of as many blocks as the stream reports
in order, and of no more, whether the format succeeds or fails (`formatFilesystem_tells_in_order`).
-/

namespace BoardBench.Bootloader

open Journal Session

/-- The number under a group of a match. -/
def reportNumber (m : Match) (name : String) : Option Nat :=
  (m.group? name).bind (Text.decimal? numberBound)

/-- The match is a report on block `i` of `n`. -/
structure OnBlock (n i : Nat) (m : Match) : Prop where
  count : reportNumber m "count" = some n
  index : reportNumber m "index" = some i

/-- The error of a wait for the report on a block. -/
def unreported (cmd : String) (i : Nat) : Error → Error
  | .streamTimeout _ _ before | .endOfStream _ before =>
    .device cmd ("missing progress for block " ++ toString i) before
  | e => e

/-- `Reports n i stream ms rest`: the stream begins with the matches `ms`, each of them the first
report in what the ones before it left, on the blocks from `i` on of `n`. -/
inductive Reports (n : Nat) : Nat → Bytes → List Match → Bytes → Prop
  | nil {i : Nat} {stream : Bytes} : Reports n i stream [] stream
  | cons {i : Nat} {stream before index count text rest rest' : Bytes} {ms : List Match} :
      FirstReport stream before index count text rest →
      Text.decimal? numberBound (Text.lossy count) = some n →
      Text.decimal? numberBound (Text.lossy index) = some i → Reports n (i + 1) rest ms rest' →
      Reports n i stream (reportMatch before index count text :: ms) rest'

theorem Reports.append {n i : Nat} {stream rest : Bytes} {ms : List Match}
    (h : Reports n i stream ms rest) (more : Bytes) :
    Reports n i (stream ++ more) ms (rest ++ more) := by
  induction h with
  | nil => exact .nil
  | cons hfirst hcount hindex _ ih => exact .cons (hfirst.append more) hcount hindex ih

namespace Client

variable {δ : Type}

/-! ## One round -/

section rounds

variable [Bench δ] [Transport δ]

/-- How the wait for the report on block `i` can end. -/
inductive BlockRun (spec : JffsImage) (cmd : String) (i : Nat) (s : Session δ) :
    Except Error Match → Session δ → Prop
  | missing {e s'} : Session.expect [blockReport δ] spec.perBlockTimeout s = (.error e, s') →
      BlockRun spec cmd i s (.error (unreported cmd i e)) s'
  | foreign {m s'} : Session.expect [blockReport δ] spec.perBlockTimeout s = (.ok m, s') →
      reportNumber m "count" ≠ some spec.cleanmarker.blockCount →
      BlockRun spec cmd i s (.error (.device cmd ("plo formats " ++ (m.group? "count").getD "?" ++
        " blocks, expected " ++ toString spec.cleanmarker.blockCount) m.beforeText)) s'
  | misplaced {m s'} : Session.expect [blockReport δ] spec.perBlockTimeout s = (.ok m, s') →
      reportNumber m "count" = some spec.cleanmarker.blockCount → reportNumber m "index" ≠ some i →
      BlockRun spec cmd i s (.error (.device cmd ("expected progress for block " ++ toString i ++
        ", got " ++ Text.trimEnd m.matchedText) m.beforeText)) s'
  | reported {m s'} : Session.expect [blockReport δ] spec.perBlockTimeout s = (.ok m, s') →
      OnBlock spec.cleanmarker.blockCount i m → BlockRun spec cmd i s (.ok m) s'

theorem expectBlock_run {spec : JffsImage} {cmd : String} {i : Nat} {c c' : Client δ}
    {x : Except Error Unit} (h : expectBlock spec cmd i c = (x, c')) :
    ∃ y s, BlockRun spec cmd i c.session y s ∧ c' = { c with session := s } ∧
      x = y.map fun _ => () := by
  unfold expectBlock at h
  rcases Act.bind_eq_iff.1 h with ⟨e, hwait, rfl⟩ | ⟨m, c₁, hwait, h⟩ <;>
    obtain ⟨_ | m, s, hm, rfl, hx⟩ := expect_mapError hwait <;> cases hx
  · exact ⟨_, s, .missing hm, rfl, rfl⟩
  dsimp only at h
  split at h
  · rename_i hcount
    cases h
    exact ⟨_, s, .foreign hm (by simpa [reportNumber] using hcount), rfl, rfl⟩
  rename_i hcount
  split at h
  · rename_i hindex
    cases h
    exact ⟨_, s, .misplaced hm (by simpa [reportNumber] using hcount)
      (by simpa [reportNumber] using hindex), rfl, rfl⟩
  · rename_i hindex
    cases h
    exact ⟨_, s, .reported hm ⟨by simpa [reportNumber] using hcount,
      by simpa [reportNumber] using hindex⟩, rfl, rfl⟩

/-! ## All rounds -/

/-- The first rounds, on the blocks from `i` on: what each waited for arrived in time, was the report
on its block, and was passed on. -/
inductive Rounds (spec : JffsImage) (progress : Nat → Nat → δ → δ) :
    Nat → Session δ → List Match → Session δ → Prop
  | nil {i s} : Rounds spec progress i s [] s
  | cons {i s m ms t u} : Session.expect [blockReport δ] spec.perBlockTimeout s = (.ok m, t) →
      OnBlock spec.cleanmarker.blockCount i m →
      Rounds spec progress (i + 1)
        { t with device := progress (i + 1) spec.cleanmarker.blockCount t.device } ms u →
      Rounds spec progress i s (m :: ms) u

variable {spec : JffsImage} {progress : Nat → Nat → δ → δ}

/-- Where a round goes wrong there are no more. -/
theorem Rounds.length_le {i : Nat} {s t u s' : Session δ} {ms ms' : List Match} {cmd : String}
    {e : Error} (h : Rounds spec progress i s ms t)
    (hstop : BlockRun spec cmd (i + ms.length) t (.error e) s')
    (h' : Rounds spec progress i s ms' u) : ms'.length ≤ ms.length := by
  induction h generalizing ms' u with
  | nil =>
    cases h' with
    | nil => exact Nat.le_refl _
    | cons hexp hon _ =>
      cases hstop with
      | missing herr => cases hexp.symm.trans herr
      | foreign hm hcount =>
        cases hexp.symm.trans hm
        exact absurd hon.count hcount
      | misplaced hm _ hindex =>
        cases hexp.symm.trans hm
        exact absurd hon.index hindex
  | @cons i s m ms t u' hexp _ _ ih =>
    cases h' with
    | nil => exact Nat.zero_le _
    | cons hexp' _ hrest =>
      cases hexp.symm.trans hexp'
      rw [List.length_cons, Nat.add_comm ms.length, ← Nat.add_assoc] at hstop
      exact Nat.succ_le_succ (ih hstop hrest)

/-- All blocks are reported, or the rounds end where one goes wrong. -/
theorem expectBlocks_run {cmd : String} {left i : Nat} {c c' : Client δ} {x : Except Error Unit}
    (h : expectBlocks spec cmd progress left i c = (x, c')) :
    ∃ ms s, Rounds spec progress i c.session ms s ∧
      ((ms.length = left ∧ x = .ok () ∧ c' = { c with session := s }) ∨
        (ms.length < left ∧ ∃ e s', BlockRun spec cmd (i + ms.length) s (.error e) s' ∧
          x = .error e ∧ c' = { c with session := s' })) := by
  induction left generalizing i c with
  | zero =>
    cases h
    exact ⟨[], _, .nil, .inl ⟨rfl, rfl, rfl⟩⟩
  | succ left ih =>
    rcases Act.bind_eq_iff.1 h with ⟨e, hblock, rfl⟩ | ⟨_, c₁, hblock, h⟩ <;>
      obtain ⟨_ | m, s, hrun, rfl, hx⟩ := expectBlock_run hblock <;> cases hx
    · exact ⟨[], c.session, .nil, .inr ⟨Nat.succ_pos _, e, s, hrun, rfl, rfl⟩⟩
    cases hrun with | reported hexp hon =>
    obtain ⟨ms, t, hms, hend⟩ := ih h
    refine ⟨m :: ms, t, .cons hexp hon hms, ?_⟩
    rw [List.length_cons, Nat.add_comm ms.length, ← Nat.add_assoc]
    rcases hend with ⟨hlen, rfl, rfl⟩ | ⟨hlen, e, s', hstop, rfl, rfl⟩
    · exact .inl ⟨by omega, rfl, rfl⟩
    · exact .inr ⟨by omega, e, s', hstop, rfl, rfl⟩

/-! ## On a recorded session -/

/-- What was passed over to the end of the last of these matches. -/
def taken (ms : List Match) : Bytes := ms.flatMap fun m => m.before ++ m.matched

theorem Rounds.onBlock {i : Nat} {s t : Session δ} {ms : List Match} (h : Rounds spec progress i s ms t) :
    ∀ k m, ms[k]? = some m → OnBlock spec.cleanmarker.blockCount (i + k) m := by
  induction h with
  | nil => exact fun k m hm => nomatch hm
  | @cons i s m ms t u _ hon _ ih =>
    intro k m' hm
    cases k with
    | zero =>
      cases hm
      exact hon
    | succ k =>
      have := ih k m' hm
      rwa [Nat.add_assoc, Nat.add_comm 1] at this

/-- The first rounds take their matches out of the stream, and the caller is told of just these. -/
theorem Rounds.consumes {progress : Nat → Nat → δ → δ} {i : Nat} {s t : Session (Recorded δ)}
    {ms : List Match} (h : Rounds spec (Recorded.tell progress) i s ms t) :
    ∃ j, s.Consumes j (taken ms) t ∧ written j = [] ∧
      told j = (List.range' i ms.length).map (fun b => (b + 1, spec.cleanmarker.blockCount)) := by
  induction h with
  | @nil i s => exact ⟨[], .refl s, rfl, rfl⟩
  | @cons i s m ms t u hexp hon _ ih =>
    obtain ⟨k, hk, he⟩ := expect_spec hexp
    cases he with | met hc hsplit =>
    obtain ⟨j, hj, hw, ht⟩ := ih
    have htell : t.Consumes [.progress (i + 1) spec.cleanmarker.blockCount] []
        { t with device := Recorded.tell progress (i + 1) spec.cleanmarker.blockCount t.device } :=
      Consumes.nil_iff.2 ⟨rfl, (List.append_nil _).symm⟩
    have hall := (hc.trans htell).trans hj
    rw [List.append_nil] at hall
    refine ⟨_, hall, ?_, ?_⟩
    · rw [written_append, written_append, hk.written_nil, hw]
      rfl
    · rw [told_append, told_append, hk.told_nil, ht]
      rfl

/-- What they take are reports on their blocks. -/
theorem Rounds.reports (hfinds : FindsReports δ) {progress : Nat → Nat → δ → δ} {i : Nat}
    {s t : Session (Recorded δ)} {ms : List Match} (h : Rounds spec (Recorded.tell progress) i s ms t) :
    Reports spec.cleanmarker.blockCount i (taken ms) ms [] := by
  induction h with
  | nil => exact .nil
  | @cons i s m ms t u hexp hon _ ih =>
    obtain ⟨k, hk, he⟩ := expect_spec hexp
    cases he with | met hc hsplit =>
    obtain ⟨before, index, count, text, hfirst, rfl⟩ := (split?_report_iff hfinds).1 hsplit
    exact .cons (hfirst.front.append (taken ms)) hon.count hon.index ih

/-- Why the wait for the report on block `i` failed that made the calls `j` and had `stream` before
it. -/
inductive Stops (spec : JffsImage) (cmd : String) (i : Nat) (stream : Bytes) (j : Journal) :
    Error → Prop
  | missing : (∀ before index count text rest, ¬ FirstReport stream before index count text rest) →
      Stops spec cmd i stream j
        (.device cmd ("missing progress for block " ++ toString i) (Text.lossy stream))
  | failed {e : Error} :
      (∀ before index count text rest, ¬ FirstReport stream before index count text rest) →
      FailsWith j e → Stops spec cmd i stream j (unreported cmd i e)
  | foreign {before index count text rest : Bytes} :
      FirstReport stream before index count text rest →
      Text.decimal? numberBound (Text.lossy count) ≠ some spec.cleanmarker.blockCount →
      Stops spec cmd i stream j (.device cmd ("plo formats " ++ Text.lossy count ++
        " blocks, expected " ++ toString spec.cleanmarker.blockCount) (Text.lossy before))
  | misplaced {before index count text rest : Bytes} :
      FirstReport stream before index count text rest →
      Text.decimal? numberBound (Text.lossy count) = some spec.cleanmarker.blockCount →
      Text.decimal? numberBound (Text.lossy index) ≠ some i →
      Stops spec cmd i stream j (.device cmd ("expected progress for block " ++ toString i ++
        ", got " ++ Text.trimEnd (Text.lossy text)) (Text.lossy before))

theorem BlockRun.listens {cmd : String} {i : Nat} {s s' : Session (Recorded δ)}
    {x : Except Error Match} (h : BlockRun spec cmd i s x s') :
    ∃ j bytes, Listens j ∧ s.Consumes j bytes s' := by
  have listens {y : Except Error Match}
      (hexp : Session.expect [blockReport (Recorded δ)] spec.perBlockTimeout s = (y, s')) :
      ∃ j bytes, Listens j ∧ s.Consumes j bytes s' := by
    obtain ⟨j, hj, he⟩ := expect_spec hexp
    obtain ⟨bytes, hc⟩ := he.consumes
    exact ⟨j, bytes, hj, hc⟩
  cases h with
  | missing hexp => exact listens hexp
  | foreign hexp _ => exact listens hexp
  | misplaced hexp _ _ => exact listens hexp
  | reported hexp _ => exact listens hexp

theorem BlockRun.stops (hfinds : FindsReports δ) {cmd : String} {i : Nat} {s s' : Session (Recorded δ)}
    {e : Error} (h : BlockRun spec cmd i s (.error e) s') :
    ∃ j bytes, Listens j ∧ s.Consumes j bytes s' ∧
      Stops spec cmd i (s.buffer ++ received j) j e := by
  cases h with
  | missing hexp =>
    obtain ⟨j, hj, he⟩ := expect_spec hexp
    cases he with | unmet hc hsplit hu =>
    have hbuffer := (Consumes.nil_iff.1 hc).2
    rw [hbuffer] at hsplit hu
    have hnone : ∀ before index count text rest,
        ¬ FirstReport (s.buffer ++ received j) before index count text rest := by
      intro before index count text rest hfirst
      have hsome := (split?_report_iff hfinds).2 ⟨before, index, count, text, hfirst, rfl⟩
      cases hsplit.symm.trans hsome
    refine ⟨j, _, hj, hc, ?_⟩
    cases hu with
    | silent => exact .missing hnone
    | ended => exact .missing hnone
    | failed hf => exact .failed hnone hf
  | foreign hexp hcount =>
    obtain ⟨j, hj, he⟩ := expect_spec hexp
    cases he with | met hc hsplit =>
    obtain ⟨before, index, count, text, hfirst, rfl⟩ := (split?_report_iff hfinds).1 hsplit
    exact ⟨j, _, hj, hc, .foreign hfirst hcount⟩
  | misplaced hexp hcount hindex =>
    obtain ⟨j, hj, he⟩ := expect_spec hexp
    cases he with | met hc hsplit =>
    obtain ⟨before, index, count, text, hfirst, rfl⟩ := (split?_report_iff hfinds).1 hsplit
    exact ⟨j, _, hj, hc, .misplaced hfirst hcount hindex⟩

/-! ## The whole format -/

/-- The opening of a format. -/
def startFormat (spec : JffsImage) : Act (Client δ) Unit := do
  note ("Formatting " ++ toString spec.cleanmarker.blockCount ++ " blocks on " ++ spec.flashDeviceId)
  sendCommand (formatCommand spec).render

theorem formatFilesystem_eq (spec : JffsImage) (progress : Nat → Nat → δ → δ) :
    formatFilesystem spec progress = startFormat spec >>= fun _ =>
      expectBlocks spec (formatCommand spec).render progress spec.cleanmarker.blockCount 0 >>= fun _ =>
        finishCommand (formatCommand spec).render promptTimeout := by
  unfold formatFilesystem startFormat finishCommand
  simp only [Act.bind_assoc]

theorem startFormat_does (spec : JffsImage) :
    Does (startFormat spec : Act (Client (Recorded δ)) Unit)
      (Bytes.ofText (formatCommand spec).render ++ lineEnd) []
      fun _ bytes => Echo (Bytes.ofText (formatCommand spec).render) bytes := by
  have h := (note_does (δ := δ) ("Formatting " ++ toString spec.cleanmarker.blockCount ++
    " blocks on " ++ spec.flashDeviceId)).bind fun _ => sendCommand_does (formatCommand spec).render
  rw [List.nil_append, List.nil_append] at h
  refine h.mono fun _ bytes => ?_
  rintro ⟨_, _, e, rfl, rfl, he⟩
  exact he

theorem startFormat_mirrors (spec : JffsImage) :
    Act.Mirrors (plain (δ := δ)) (startFormat spec) (startFormat spec) :=
  ((note_relates Session.recorded_inStep _).bind fun _ =>
    sendCommand_relates Session.recorded_inStep _).mirrors both_plain_iff

/-- Of `n` blocks the caller is told of the first `k`, in order and once each, where `k` is the number
of reports that come in time and in order; if that is not all of them, the format fails with the
reason that ended the rounds, and else it ends as the wait for its prompt does. All that is assumed of the
library is that it finds reports on blocks. -/
theorem formatFilesystem_tells_in_order (hfinds : FindsReports δ) (spec : JffsImage)
    (progress : Nat → Nat → δ → δ) {c : Client δ} (h : (startFormat spec c).1 = .ok ()) :
    let n := spec.cleanmarker.blockCount
    let cmd := (formatCommand spec).render
    let c₁ := (startFormat spec c.recorded).2
    let run := formatFilesystem spec (Recorded.tell progress) c.recorded
    formatFilesystem spec progress c = (run.1, run.2.plain) ∧
    ∃ k ms s j₀ j j',
      IsGreatest {k | k ≤ n ∧ ∃ ms s, Rounds spec (Recorded.tell progress) 0 c₁.session ms s ∧
        ms.length = k} k ∧
      Rounds spec (Recorded.tell progress) 0 c₁.session ms s ∧ ms.length = k ∧
      Reports n 0 (c₁.session.buffer ++ received j) ms s.buffer ∧
      c₁.session.device.journal = j₀ ∧ s.device.journal = j₀ ++ j ∧
      run.2.session.device.journal = j₀ ++ j ++ j' ∧
      told (j₀ ++ j ++ j') = (List.range k).map (fun b => (b + 1, n)) ∧
      (k < n → ∃ e, run.1 = .error e ∧ Stops spec cmd k (s.buffer ++ received j') j' e) ∧
      (k = n → run = finishCommand cmd promptTimeout { c₁ with session := s }) := by
  intro n cmd c₁ run
  refine ⟨formatFilesystem_mirrors spec progress c.recorded, ?_⟩
  have hopen : startFormat spec c.recorded = (.ok (), c₁) := by
    have hmirror := startFormat_mirrors spec c.recorded
    exact Prod.ext ((congrArg Prod.fst hmirror).symm.trans h) rfl
  obtain ⟨j₀, e₀, hstart, hok⟩ := startFormat_does spec c.recorded _ c₁ hopen
  obtain ⟨-, htold₀, -⟩ := hok () rfl
  have hj₀ : c₁.session.device.journal = j₀ := hstart.journal
  have hrun : run =
      (expectBlocks spec cmd (Recorded.tell progress) n 0 >>= fun _ =>
        finishCommand cmd promptTimeout) c₁ := by
    show formatFilesystem spec (Recorded.tell progress) c.recorded = _
    rw [formatFilesystem_eq, Act.bind_ok hopen]
  rcases hx : expectBlocks spec cmd (Recorded.tell progress) n 0 c₁ with ⟨x, c₂⟩
  obtain ⟨ms, s, hrounds, hend⟩ := expectBlocks_run hx
  obtain ⟨j, hj, -, htold⟩ := hrounds.consumes
  have hreports := (hrounds.reports hfinds).append s.buffer
  rw [← hj.stream, List.nil_append] at hreports
  rw [← List.range_eq_range'] at htold
  have hjs : s.device.journal = j₀ ++ j := hj₀ ▸ hj.journal
  rcases hend with ⟨hlen, rfl, rfl⟩ | ⟨hlen, e, s', hstop, rfl, rfl⟩
  · rw [Act.bind_ok hx] at hrun
    obtain ⟨j', bytes', hj', -⟩ := finishCommand_does cmd promptTimeout _ run.1 run.2 hrun.symm
    refine ⟨n, ms, s, j₀, j, j', ⟨⟨Nat.le_refl n, ms, s, hrounds, hlen⟩, fun k hk => hk.1⟩, hrounds,
      hlen, hreports, hj₀, hjs, hjs ▸ hj'.journal, ?_, fun hlt => absurd hlt (Nat.lt_irrefl n),
      fun _ => hrun⟩
    rw [told_append, told_append, htold₀, htold, List.prefix_nil.1 hj'.told, hlen, List.append_nil]
    rfl
  · rw [Act.bind_error hx] at hrun
    obtain ⟨j', bytes', hl', hj', hstops⟩ := hstop.stops hfinds
    rw [Nat.zero_add] at hstops
    refine ⟨ms.length, ms, s, j₀, j, j', ⟨⟨Nat.le_of_lt hlen, ms, s, hrounds, rfl⟩, ?_⟩, hrounds, rfl,
      hreports, hj₀, hjs, ?_, ?_, fun _ => ⟨e, congrArg Prod.fst hrun, hstops⟩,
      fun heq => absurd heq (Nat.ne_of_lt hlen)⟩
    · rintro _ ⟨-, ms', u, hrounds', rfl⟩
      exact hrounds.length_le hstop hrounds'
    · rw [hrun, hj'.journal, ← hjs]
    · rw [told_append, told_append, htold₀, htold, hl'.told_nil, List.append_nil]
      rfl

end rounds

/-- A partition of two blocks. -/
def twoBlocks : JffsImage :=
  ⟨⟨"rootfs.img", "usb0", "flash0"⟩, "2.0", ⟨0, 2, 0x10000, 0x10⟩, .ofSeconds 1⟩

theorem twoBlocks_render :
    (formatCommand twoBlocks).render = "jffs2 -d 2.0 -e -c 0x0:0x2:0x10000:0x10" := by decide

/-- A client whose board has reported on both blocks. -/
def twoBlocksClient : Client Sim.World :=
  ⟨⟨{}, Bytes.ofText "jffs2 -d 2.0 -e -c 0x0:0x2:0x10000:0x10\r\nblock 0/2\rblock 1/2\r\n(plo)% ",
    none, false⟩, .promptReady⟩

theorem formatFilesystem_tells_in_order_two :
    FindsReports Sim.World ∧ (startFormat twoBlocks twoBlocksClient).1 = .ok () ∧
      told (formatFilesystem twoBlocks (Recorded.tell fun _ _ w => w)
        twoBlocksClient.recorded).2.session.device.journal = [(1, 2), (2, 2)] := by
  have hstart : (startFormat twoBlocks twoBlocksClient).1 = .ok () := by
    unfold startFormat
    simp only [twoBlocks_render]
    generalize "Formatting " ++ _ = text
    cbv
  have hok : (formatFilesystem twoBlocks (Recorded.tell fun _ _ w => w)
      twoBlocksClient.recorded).1 = .ok () := by
    unfold formatFilesystem
    simp only [twoBlocks_render]
    generalize "Formatting " ++ _ = text
    cbv
  have hfinds : FindsReports Sim.World := Regex.findsReports
  refine ⟨hfinds, hstart, ?_⟩
  obtain ⟨-, k, ms, s, j₀, j, j', ⟨⟨hle, -⟩, -⟩, -, -, -, -, -, hjournal, htold, hfail, -⟩ :=
    formatFilesystem_tells_in_order hfinds twoBlocks (fun _ _ w => w) hstart
  obtain rfl : k = 2 := by
    refine Nat.le_antisymm hle (Nat.le_of_not_lt fun hlt => ?_)
    obtain ⟨e, he, -⟩ := hfail hlt
    cases hok.symm.trans he
  rw [hjournal]
  exact htold

end Client
end BoardBench.Bootloader
