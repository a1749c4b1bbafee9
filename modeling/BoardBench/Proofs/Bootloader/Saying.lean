import BoardBench.Proofs.Bootloader.ReportedErrors
import BoardBench.Proofs.Chronicle

/-!
# What operations write and tell

Each operation has a text: what it writes if it succeeds, and what it then has told of its progress. If
it fails it has written and told a front part of that. `Utters` is the same for any action on a machine
with a chronicle, and adds that nothing was done with processes; what a journal says of an action, the
chronicle says too (`Does.utters`).
-/

namespace BoardBench.Bootloader

open Session

/-- What is written on behalf of an operation. -/
def Operation.text : Operation → Bytes
  | .erase device offset size _ =>
    (Bytes.ofText (Command.erase device offset size).render ++ lineEnd) ++
      (Bytes.ofText confirmation ++ lineEnd)
  | op => Bytes.ofText op.line ++ lineEnd

/-- The progress that is told of on behalf of an operation. -/
def Operation.news : Operation → List (Nat × Nat)
  | .format spec =>
    (List.range spec.cleanmarker.blockCount).map fun b => (b + 1, spec.cleanmarker.blockCount)
  | _ => []

namespace Client

variable {δ : Type} [Bench δ] [Transport δ]

/-! ## On a journal -/

omit [Bench δ] [Transport δ] in
theorem Does.then {α β : Type} {x : Act (Client (Recorded δ)) α} {y : α → Act (Client (Recorded δ)) β}
    {out out' : Bytes} {news news' : List (Nat × Nat)} {P : α → Bytes → Prop}
    {Q : α → β → Bytes → Prop} (h : Does x out news P) (hy : ∀ a, Does (y a) out' news' (Q a)) :
    Does (x >>= y) (out ++ out') (news ++ news') fun _ _ => True :=
  (h.bind hy).mono fun _ _ _ => trivial

theorem expect_does (ps : List Pattern) (timeout : Span) :
    Does (expect ps timeout : Act (Client (Recorded δ)) Match) [] [] fun _ _ => True := by
  intro c r c' h
  obtain ⟨s, hs, rfl⟩ := onSession_eq_iff.1 h
  obtain ⟨j, bytes, hl, hj⟩ := consumes_of_expect hs
  exact ⟨j, bytes, hj.exchanges hl, fun _ _ => ⟨hl.written_nil, hl.told_nil, trivial⟩⟩

theorem sendLine_does (line : String) :
    Does (sendLine line : Act (Client (Recorded δ)) Unit) (Bytes.ofText line ++ lineEnd) []
      fun _ _ => True := by
  intro c r c' h
  obtain ⟨s, hs, rfl⟩ := onSession_eq_iff.1 h
  obtain ⟨j, hj, hok⟩ := send_spec hs
  exact ⟨j, [], hj, fun a ha => ⟨hok ha, List.prefix_nil.1 hj.told, trivial⟩⟩

omit [Bench δ] [Transport δ] in
theorem enter_does (state : State) :
    Does (enter state : Act (Client (Recorded δ)) Unit) [] [] fun _ _ => True := by
  intro c r c' h
  cases h
  exact ⟨[], [], .refl _ _ _, fun _ _ => ⟨rfl, rfl, trivial⟩⟩

omit [Bench δ] [Transport δ] in
theorem state_does {α : Type} {f : Client (Recorded δ) → Act (Client (Recorded δ)) α} {out : Bytes}
    {news : List (Nat × Nat)} {P : α → Bytes → Prop} (h : ∀ c, Does (f c) out news P) :
    Does (Act.state >>= f) out news P :=
  fun c r c' hrun => h c c r c' hrun

theorem enterBootloader_does :
    Does (enterBootloader : Act (Client (Recorded δ)) Unit) lineEnd [] fun _ _ => True :=
  (expect_does _ _).then fun _ => (sendLine_does "").then fun _ =>
    ((expect_does _ _).then fun _ => (enter_does _).then fun _ => .pure _).then fun _ =>
      state_does fun _ => note_does _

theorem expectBlocks_does (spec : JffsImage) (cmd : String) (progress : Nat → Nat → δ → δ)
    (left i : Nat) :
    Does (expectBlocks spec cmd (Recorded.tell progress) left i : Act (Client (Recorded δ)) Unit) []
      ((List.range' i left).map fun b => (b + 1, spec.cleanmarker.blockCount)) fun _ _ => True := by
  intro c r c' h
  obtain ⟨ms, s, hrounds, hend⟩ := expectBlocks_run h
  obtain ⟨j, hj, hw, htold⟩ := hrounds.consumes
  rcases hend with ⟨rfl, rfl, rfl⟩ | ⟨hlen, e, s', hstop, rfl, rfl⟩
  · refine ⟨j, taken ms, ⟨hj, hw ▸ List.prefix_rfl, htold ▸ List.prefix_rfl⟩, fun _ _ => ⟨hw, htold, trivial⟩⟩
  · obtain ⟨j', bytes', hl', hj'⟩ := hstop.listens
    refine ⟨j ++ j', taken ms ++ bytes', ⟨hj.trans hj', ?_, ?_⟩, nofun⟩
    · rw [Journal.written_append, hw, hl'.written_nil]
      exact List.prefix_rfl
    · rw [Journal.told_append, htold, hl'.told_nil, List.append_nil]
      refine List.IsPrefix.map _ ?_
      obtain ⟨more, rfl⟩ := Nat.exists_eq_add_of_lt hlen
      rw [Nat.add_assoc, ← List.range'_append_1]
      exact List.prefix_append _ _

end Client

open Client

variable {δ : Type} [Bench δ] [Transport δ]

/-- An operation writes its text and tells its news, whatever the device does, as far as it gets. -/
theorem Operation.perform_does (op : Operation) (progress : Nat → Nat → δ → δ) :
    Does (op.perform (Recorded.tell progress) : Act (Client (Recorded δ)) Unit) op.text op.news
      fun _ _ => True := by
  have hopening : Does (op.opening (Recorded.tell progress) : Act (Client (Recorded δ)) Unit) op.text
      op.news fun _ _ => True := by
    by_cases hop : op.single = true
    · rw [opening_of_single hop]
      cases op with
      | erase _ _ _ _ => cases hop
      | format _ => cases hop
      | _ => exact (sendCommand_does _).mono fun _ _ _ => trivial
    cases op with
    | erase device offset size timeout =>
      exact (awaitWarning_does device offset size).then fun _ => awaitErased_does _ timeout
    | format spec =>
      have h := (startFormat_does spec).then fun _ => expectBlocks_does spec
        (formatCommand spec).render progress spec.cleanmarker.blockCount 0
      rw [List.append_nil, ← List.range_eq_range'] at h
      exact h
    | _ => exact absurd rfl hop
  have h := hopening.then fun _ => finishCommand_does op.line op.promptWait
  rw [← perform_eq, List.append_nil, List.append_nil] at h
  exact h

/-! ## On a chronicle -/

/-- Whatever the device does, `x` writes no more than `out`, tells of no more than `news`, and does
nothing with processes. If it succeeds, then `out` is written and `news` told in full. -/
def Client.Utters {α : Type} (x : Act (Client (Chronicled δ)) α) (out : Bytes)
    (news : List (String × Nat × Nat)) : Prop :=
  ∀ c r c', x c = (r, c') → ∃ k : Chronicle,
    c'.session.device.entries = c.session.device.entries ++ k ∧ k.Idle ∧ k.written <+: out ∧
      k.told <+: news ∧ ∀ a, r = .ok a → k.written = out ∧ k.told = news

namespace Client.Utters

variable {α β : Type} {x : Act (Client (Chronicled δ)) α} {out out' : Bytes}
  {news news' : List (String × Nat × Nat)}

omit [Bench δ] [Transport δ]

/-- What fails at once has anything still before it. -/
theorem fail (e : Error) (out : Bytes) (news : List (String × Nat × Nat)) :
    Utters (Act.fail e : Act (Client (Chronicled δ)) α) out news := by
  intro c r c' h
  cases h
  exact ⟨[], (List.append_nil _).symm, .nil, List.nil_prefix, List.nil_prefix, nofun⟩

theorem bind {f : α → Act (Client (Chronicled δ)) β} (h : Utters x out news)
    (hf : ∀ a, Utters (f a) out' news') : Utters (x >>= f) (out ++ out') (news ++ news') := by
  intro c r c' hrun
  rcases Act.bind_eq_iff.1 hrun with ⟨e, hx, rfl⟩ | ⟨a, t, hx, hfa⟩
  · obtain ⟨k, hk, hidle, hw, ht, -⟩ := h c _ c' hx
    exact ⟨k, hk, hidle, hw.trans (List.prefix_append _ _), ht.trans (List.prefix_append _ _), nofun⟩
  · obtain ⟨k, hk, hidle, -, -, hok⟩ := h c _ t hx
    obtain ⟨l, hl, hidle', hw', ht', hok'⟩ := hf a t r c' hfa
    obtain ⟨hw, ht⟩ := hok a rfl
    refine ⟨k ++ l, by rw [hl, hk, List.append_assoc], hidle.append hidle', ?_, ?_, fun b hb => ?_⟩
    · rw [Chronicle.written_append, hw]
      exact (List.prefix_append_right_inj out).2 hw'
    · rw [Chronicle.told_append, ht]
      exact (List.prefix_append_right_inj news).2 ht'
    · rw [Chronicle.written_append, Chronicle.told_append, hw, ht, (hok' b hb).1, (hok' b hb).2]
      exact ⟨rfl, rfl⟩

end Client.Utters

omit [Bench δ] [Transport δ] in
/-- What a journal says of an action, the chronicle says of an action in step with it. -/
theorem Client.Does.utters {α : Type} {x : Act (Client (Recorded δ)) α}
    {y : Act (Client (Chronicled δ)) α} {out : Bytes} {news : List (Nat × Nat)} {P : α → Bytes → Prop}
    (h : Does x out news P) (step : String)
    (hxy : ∀ before, Act.Relates (Both (Alike (Chronicled.Takes before step))) x y) :
    Utters y out (news.map fun (done, total) => (step, done, total)) := by
  intro c r c' hrun
  let c₀ : Client (Recorded δ) :=
    ⟨⟨⟨c.session.device.device, []⟩, c.session.buffer, c.session.log, c.session.closed⟩, c.state⟩
  have hc : Both (Alike (Chronicled.Takes c.session.device.entries step)) c₀ c :=
    ⟨rfl, ⟨rfl, (List.append_nil _).symm⟩, rfl, rfl, rfl⟩
  obtain ⟨hval, hrel⟩ := hxy _ c₀ c hc
  rw [hrun] at hval hrel
  obtain ⟨j, bytes, hj, hok⟩ := h c₀ _ _ (Prod.ext hval.symm rfl)
  have hentries := hrel.session.device.entries
  have hjournal : (x c₀).2.session.device.journal = j := hj.journal
  rw [hjournal] at hentries
  refine ⟨_, hentries, Chronicle.idle_ofJournal step j, ?_, ?_, fun a ha => ?_⟩
  · rw [Chronicle.written_ofJournal]
    exact hj.written
  · rw [Chronicle.told_ofJournal]
    exact hj.told.map _
  · obtain ⟨hw, ht, -⟩ := hok a ha
    rw [Chronicle.written_ofJournal, Chronicle.told_ofJournal, hw, ht]
    exact ⟨rfl, rfl⟩

theorem Client.enterBootloader_utters :
    Utters (enterBootloader : Act (Client (Chronicled δ)) Unit) lineEnd [] :=
  enterBootloader_does.utters "" fun before =>
    enterBootloader_relates (session_inStep (Chronicled.takes_inStep before "") rfl)

theorem Operation.perform_utters (op : Operation) (progress : String → Nat → Nat → δ → δ)
    (step : String) :
    Utters (op.perform (Chronicled.tell progress step)) op.text
      (op.news.map fun (done, total) => (step, done, total)) := by
  refine (op.perform_does (progress step)).utters step fun before => ?_
  refine perform_relates (session_inStep (Chronicled.takes_inStep before step) rfl) (fun done total => ?_)
    op fun _ _ => trivial
  refine .change fun s t hst => ⟨⟨?_, ?_⟩, hst.buffer, hst.log, hst.closed⟩
  · exact congrArg (progress step done total) hst.device.device
  · show t.device.entries ++ _ = _
    rw [hst.device.entries, List.append_assoc]
    show _ = before ++ (s.device.journal ++ [Call.progress done total]).map (Entry.ofCall step)
    rw [List.map_append]
    rfl

end BoardBench.Bootloader
