import BoardBench.Proofs.Relates
import BoardBench.Proofs.Session.Rounds

/-!
# Sessions in step

Two transports are in step if each call gives the same answer on both and leaves them in step
(`Transport.InStep`). Then so are the sessions on them, since whatever relates sessions of which reads
come to the same relates the loops of reads too (`Session.ReadAlike`). `Session.InStep ok S` is what a
client of a session relies on: on sessions that `S` relates, lines that are sent, patterns and reports on
blocks that are awaited for an `ok` time and lines of the log come to the same.
-/

namespace BoardBench

variable {δ ε : Type} [Bench δ] [Bench ε] [Transport δ] [Transport ε]

/-- Related transports take what is written to them alike. -/
structure Transport.TakeAlike (D : δ → ε → Prop) : Prop where
  write : ∀ bytes d e, D d e → (Transport.write bytes e).1 = (Transport.write bytes d).1 ∧
    D (Transport.write bytes d).2 (Transport.write bytes e).2
  flush : ∀ d e, D d e →
    (Transport.flush e).1 = (Transport.flush d).1 ∧ D (Transport.flush d).2 (Transport.flush e).2

/-- On related transports each call gives the same answer and leaves them related. -/
structure Transport.InStep (D : δ → ε → Prop) : Prop extends Transport.TakeAlike D where
  name : ∀ d e, D d e → Transport.name e = Transport.name d
  now : ∀ d e, D d e → Bench.now e = Bench.now d
  note : ∀ level text d e, D d e → D (Bench.note level text d) (Bench.note level text e)
  setTimeout : ∀ t, Act.Relates D (Transport.setTimeout t) (Transport.setTimeout t)
  read : ∀ n d e, D d e →
    (Transport.read n e).1 = (Transport.read n d).1 ∧ D (Transport.read n d).2 (Transport.read n e).2

/-- What a client of related sessions relies on. -/
structure Session.InStep (ok : Span → Prop) (S : Session δ → Session ε → Prop) : Prop where
  ok_of_pos : ∀ t, 0 < t.nanos → ok t
  note : ∀ level (text : String → String), Act.Relates S
    (fun s => Session.note level (text (Transport.name s.device)) s)
    (fun s => Session.note level (text (Transport.name s.device)) s)
  sendLine : ∀ line, Act.Relates S (Session.sendLine line) (Session.sendLine line)
  expect : ∀ ps timeout, Pattern.Stable ps → ok timeout →
    Act.Relates S (Session.expect ps timeout) (Session.expect ps timeout)
  report : ∀ timeout, ok timeout →
    Act.Relates S (Session.expect [.regex (Bench.libraries δ).regexes.blockReport] timeout)
      (Session.expect [.regex (Bench.libraries ε).regexes.blockReport] timeout)

/-- Sessions on related transports that are the same otherwise. -/
structure Session.Alike (D : δ → ε → Prop) (s : Session δ) (t : Session ε) : Prop where
  device : D s.device t.device
  buffer : t.buffer = s.buffer
  log : t.log = s.log
  closed : t.closed = s.closed

/-- Reads of related sessions come to the same, at the same time and with the same bytes buffered. -/
structure Session.ReadAlike (R : Session δ → Session ε → Prop) : Prop where
  now : ∀ s t, R s t → t.now = s.now
  buffer : ∀ s t, R s t → t.buffer = s.buffer
  setBuffer : ∀ s t, R s t → ∀ buffer, R { s with buffer } { t with buffer }
  fill : ∀ wait, Act.Relates R (Session.fill wait) (Session.fill wait)

namespace Transport.TakeAlike

variable {D : δ → ε → Prop}

theorem writeLoop (hD : TakeAlike D) (bytes : Bytes) (d : δ) : ∀ e, D d e →
    (Transport.writeLoop bytes e).1 = (Transport.writeLoop bytes d).1 ∧
      D (Transport.writeLoop bytes d).2 (Transport.writeLoop bytes e).2 := by
  -- a round on the one is a round on the other
  have round {bytes : Bytes} {d d' : δ} {e : ε} {x : Except Fault Nat} (hde : D d e)
      (hw : Transport.write bytes d = (x, d')) : ∃ e', D d' e' ∧ Transport.write bytes e = (x, e') := by
    obtain ⟨hval, hrel⟩ := hD.write bytes d e hde
    rw [hw] at hval hrel
    exact ⟨_, hrel, Prod.ext hval rfl⟩
  induction bytes, d using Transport.writeLoop.induct with
  | case1 bytes d hempty =>
    intro e hde
    rw [Transport.writeLoop, if_pos hempty, Transport.writeLoop, if_pos hempty]
    exact ⟨rfl, hde⟩
  | case2 bytes d hempty f d' hw hf ih =>
    intro e hde
    obtain ⟨e', hde', hwe⟩ := round hde hw
    rw [Transport.writeLoop_of_write hempty hw, Transport.writeLoop_of_write hempty hwe]
    simp only [if_pos hf]
    exact ih e' hde'
  | case3 bytes d hempty f d' hw hf =>
    intro e hde
    obtain ⟨e', hde', hwe⟩ := round hde hw
    rw [Transport.writeLoop_of_write hempty hw, Transport.writeLoop_of_write hempty hwe]
    simp only [if_neg hf]
    exact ⟨trivial, hde'⟩
  | case4 bytes d hempty d' hw =>
    intro e hde
    obtain ⟨e', hde', hwe⟩ := round hde hw
    rw [Transport.writeLoop_of_write hempty hw, Transport.writeLoop_of_write hempty hwe]
    exact ⟨rfl, hde'⟩
  | case5 bytes d hempty n d' hw ih =>
    intro e hde
    obtain ⟨e', hde', hwe⟩ := round hde hw
    rw [Transport.writeLoop_of_write hempty hw, Transport.writeLoop_of_write hempty hwe]
    exact ih e' hde'

theorem writeAll (hD : TakeAlike D) (bytes : Bytes) :
    Act.Relates D (Transport.writeAll bytes) (Transport.writeAll bytes) := by
  intro d e hde
  obtain ⟨hval, hrel⟩ := hD.writeLoop bytes d e hde
  rcases hd : Transport.writeLoop bytes d with ⟨_ | _, d'⟩ <;>
    rcases he : Transport.writeLoop bytes e with ⟨_ | _, e'⟩ <;> rw [hd, he] at hval hrel <;>
    cases hval
  · simp only [Transport.writeAll, hd, he]
    exact ⟨trivial, hrel⟩
  · obtain ⟨hval', hrel'⟩ := hD.flush d' e' hrel
    rcases hfd : Transport.flush d' with ⟨_ | _, d''⟩ <;>
      rcases hfe : Transport.flush e' with ⟨_ | _, e''⟩ <;> rw [hfd, hfe] at hval' hrel' <;>
      cases hval' <;> simp only [Transport.writeAll, hd, he, hfd, hfe] <;>
      exact ⟨trivial, hrel'⟩

end Transport.TakeAlike

namespace Session

variable {D : δ → ε → Prop}

open Transport

omit [Bench δ] [Bench ε] [Transport δ] [Transport ε] in
theorem onDevice_relates {α : Type} {x : Act δ α} {y : Act ε α} (h : Act.Relates D x y) :
    Act.Relates (Alike D) (onDevice x) (onDevice y) :=
  h.zoom (fun _ _ hs => hs.device) fun _ _ hs _ _ hd => ⟨hd, hs.buffer, hs.log, hs.closed⟩

omit [Bench δ] [Bench ε] [Transport δ] [Transport ε] in
theorem copyToLog_alike {s : Session δ} {t : Session ε} (h : Alike D s t) (bytes : Bytes) :
    Alike D (copyToLog bytes s) (copyToLog bytes t) :=
  ⟨h.device, h.buffer, by simp only [copyToLog, h.log], h.closed⟩

omit [Bench δ] [Bench ε] [Transport δ] [Transport ε] in
theorem flushLog_alike {s : Session δ} {t : Session ε} (h : Alike D s t) :
    Alike D (flushLog s) (flushLog t) :=
  ⟨h.device, h.buffer, by simp only [flushLog, h.log], h.closed⟩

theorem send_relates (hD : Transport.InStep D) (bytes : Bytes) :
    Act.Relates (Alike D) (send bytes) (send bytes) :=
  (onDevice_relates (hD.writeAll bytes)).bind fun _ =>
    .change fun _ _ hs => copyToLog_alike hs bytes

theorem fill_relates (hD : Transport.InStep D) (wait : Span) :
    Act.Relates (Alike D) (fill wait) (fill wait) := by
  intro s t hst
  obtain ⟨hval, hrel⟩ := hD.setTimeout ⟨max wait.nanos shortestWait.nanos⟩ _ _ hst.device
  rcases hs : Transport.setTimeout ⟨max wait.nanos shortestWait.nanos⟩ s.device with ⟨_ | _, d⟩ <;>
    rcases ht : Transport.setTimeout ⟨max wait.nanos shortestWait.nanos⟩ t.device with ⟨_ | _, e⟩ <;>
    rw [hs, ht] at hval hrel <;> cases hval
  · simp only [fill, hs, ht]
    exact ⟨trivial, hrel, hst.buffer, hst.log, hst.closed⟩
  obtain ⟨hval', hrel'⟩ := hD.read readChunk d e hrel
  rcases hd : Transport.read readChunk d with ⟨f | _ | ⟨b, bs⟩, d'⟩ <;>
    rcases he : Transport.read readChunk e with ⟨_ | _ | _, e'⟩ <;>
    rw [hd, he] at hval' hrel' <;> cases hval' <;> simp only [fill, hs, ht, hd, he]
  · split <;> exact ⟨rfl, hrel', hst.buffer, hst.log, hst.closed⟩
  · exact ⟨trivial, hrel', hst.buffer, hst.log, hst.closed⟩
  · have hmore : Alike D { s with device := d', buffer := s.buffer ++ b :: bs }
        { t with device := e', buffer := t.buffer ++ b :: bs } :=
      ⟨hrel', congrArg (· ++ b :: bs) hst.buffer, hst.log, hst.closed⟩
    exact ⟨trivial, copyToLog_alike hmore (b :: bs)⟩

theorem now_eq (hD : Transport.InStep D) {s : Session δ} {t : Session ε} (h : Alike D s t) :
    t.now = s.now :=
  hD.now _ _ h.device

/-! ## Loops of reads -/

namespace ReadAlike

variable {R : Session δ → Session ε → Prop}

/-- A read that is begun on one session is one on the other, and comes to the same. -/
theorem fill_eq (hR : ReadAlike R) {wait : Span} {s s' : Session δ} {t : Session ε}
    {x : Except Error Fill} (hst : R s t) (h : Session.fill wait s = (x, s')) :
    ∃ t', R s' t' ∧ Session.fill wait t = (x, t') := by
  obtain ⟨hval, hrel⟩ := hR.fill wait s t hst
  rw [h] at hval hrel
  exact ⟨_, hrel, Prod.ext hval rfl⟩

theorem expectSince (hR : ReadAlike R) (start : Nat) (ps : List Pattern) (timeout : Span) :
    Act.Relates R (Session.expectSince start ps timeout) (Session.expectSince start ps timeout) := by
  -- a round on the one that has to read is one on the other
  have round {s s' : Session δ} {t : Session ε} {x : Except Error Fill} (hst : R s t)
      (hn : Pattern.earliest? ps s.buffer = none) (hlt : ¬ timeout.nanos ≤ s.now - start)
      (hs : Session.fill ⟨min (timeout.nanos - (s.now - start)) pollInterval.nanos⟩ s = (x, s')) :
      ∃ t', R s' t' ∧ Pattern.earliest? ps t.buffer = none ∧ ¬ timeout.nanos ≤ t.now - start ∧
        Session.fill ⟨min (timeout.nanos - (t.now - start)) pollInterval.nanos⟩ t = (x, t') := by
    obtain ⟨t', hst', ht⟩ := hR.fill_eq hst hs
    rw [hR.buffer s t hst, hR.now s t hst]
    exact ⟨t', hst', hn, hlt, ht⟩
  intro s
  fun_induction Session.expectSince start ps timeout s with
  | case1 s index found hf =>
    intro t hst
    rw [Session.expectSince, hR.buffer s t hst]
    simp only [hf]
    exact ⟨trivial, hR.setBuffer s t hst _⟩
  | case2 s hn elapsed hle =>
    intro t hst
    have hle' : timeout.nanos ≤ t.now - start := hR.now s t hst ▸ hle
    rw [Session.expectSince, hR.buffer s t hst]
    simp only [hn, if_pos hle']
    exact ⟨trivial, hst⟩
  | case3 s hn elapsed hle e s' hfill =>
    intro t hst
    obtain ⟨t', hst', hn', hle', hfill'⟩ := round hst hn hle hfill
    rw [expectSince_of_fill hn' hle' hfill']
    exact ⟨rfl, hst'⟩
  | case4 s hn elapsed hle s' hfill =>
    intro t hst
    obtain ⟨t', hst', hn', hle', hfill'⟩ := round hst hn hle hfill
    rw [expectSince_of_fill hn' hle' hfill', hR.buffer s' t' hst']
    exact ⟨rfl, hst'⟩
  | case5 s hn elapsed hle s' hfill ih =>
    intro t hst
    obtain ⟨t', hst', hn', hle', hfill'⟩ := round hst hn hle hfill
    rw [expectSince_of_fill hn' hle' hfill']
    exact ih t' hst'
  | case6 s hn elapsed hle s' hfill ih =>
    intro t hst
    obtain ⟨t', hst', hn', hle', hfill'⟩ := round hst hn hle hfill
    rw [expectSince_of_fill hn' hle' hfill']
    exact ih t' hst'

theorem expect (hR : ReadAlike R) (ps : List Pattern) (timeout : Span) :
    Act.Relates R (Session.expect ps timeout) (Session.expect ps timeout) := by
  intro s t hst
  unfold Session.expect
  rw [hR.now s t hst]
  exact hR.expectSince s.now ps timeout s t hst

theorem readRaw (hR : ReadAlike R) (max : Nat) (timeout : Span) :
    Act.Relates R (Session.readRaw max timeout) (Session.readRaw max timeout) := by
  have take : Act.Relates R
      (do
        let s ← Act.state
        Act.change fun s => { s with buffer := s.buffer.drop max }
        return s.buffer.take max : Act (Session δ) Bytes)
      (do
        let s ← Act.state
        Act.change fun s => { s with buffer := s.buffer.drop max }
        return s.buffer.take max : Act (Session ε) Bytes) := by
    refine .state_bind fun s t hst => ?_
    rw [Act.change_bind, Act.change_bind, hR.buffer s t hst]
    exact ⟨rfl, hR.setBuffer s t hst _⟩
  refine .state_bind fun s t hst => ?_
  rw [hR.buffer s t hst]
  exact Act.Relates.ite Iff.rfl ((hR.fill timeout).bind fun _ => take) take s t hst

end ReadAlike

theorem alike_readAlike (hD : Transport.InStep D) : ReadAlike (Alike D) where
  now _ _ hst := now_eq hD hst
  buffer _ _ hst := hst.buffer
  setBuffer _ _ hst _ := ⟨hst.device, rfl, hst.log, hst.closed⟩
  fill := fill_relates hD

theorem expect_relates (hD : Transport.InStep D) (ps : List Pattern) (timeout : Span) :
    Act.Relates (Alike D) (expect ps timeout) (expect ps timeout) :=
  (alike_readAlike hD).expect ps timeout

theorem readRaw_relates (hD : Transport.InStep D) (max : Nat) (timeout : Span) :
    Act.Relates (Alike D) (readRaw max timeout) (readRaw max timeout) :=
  (alike_readAlike hD).readRaw max timeout

theorem note_relates (hD : Transport.InStep D) (level : Level) (text : String) :
    Act.Relates (Alike D) (note level text) (note level text) :=
  .change fun _ _ hs => ⟨hD.note level text _ _ hs.device, hs.buffer, hs.log, hs.closed⟩

/-- Sessions on transports in step are in step, however long is waited. -/
theorem session_inStep (hD : Transport.InStep D)
    (hlib : (Bench.libraries ε).regexes = (Bench.libraries δ).regexes) :
    InStep (fun _ => True) (Alike D) where
  ok_of_pos _ _ := trivial
  note level text s t hst := by
    dsimp only
    rw [hD.name _ _ hst.device]
    exact note_relates hD level _ s t hst
  sendLine line := send_relates hD _
  expect ps timeout _ _ := expect_relates hD ps timeout
  report timeout _ := by
    rw [hlib]
    exact expect_relates hD _ timeout

end Session
end BoardBench
