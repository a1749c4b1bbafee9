import BoardBench.Proofs.Session.Delivery
import BoardBench.Proofs.Session.Recording

/-!
# However output is cut into reads

A script says how much a device takes of what is written to it and what it prints in reply.
`Plays script w out d` says that the device `d` follows the script from `w` on, at once and without a
failure, and that it has printed `out` which was not read yet. How `out` is cut into reads is left open.

On such a device a stable list of patterns is looked for in all that was printed
(`expect_of_plays`). So sessions on two devices that play the same script, with the same stream so far,
stay in step although each reads its own pieces (`abreast_inStep`).
-/

namespace BoardBench

/-- What a device does with bytes that are written to it. -/
structure Script (ω : Type) where
  /-- How many of them it takes. -/
  takes : ω → Bytes → Nat
  /-- What it prints then. -/
  reply : ω → Bytes → Bytes
  next : ω → Bytes → ω

variable {ω δ ε : Type} [Bench δ] [Transport δ] [Bench ε] [Transport ε] {script : Script ω}

/-- Each call on a device keeps the relation between it, its place in the script and what it has
printed that was not read. -/
structure Transport.Performs (script : Script ω) (R : ω → Bytes → δ → Prop) : Prop where
  note : ∀ w out d, R w out d → ∀ level text, R w out (Bench.note level text d)
  setTimeout : ∀ w out d, R w out d → ∀ t, ∃ d', Transport.setTimeout t d = (.ok (), d') ∧
    R w out d' ∧ Bench.now d' = Bench.now d
  /-- What was printed is there at once. -/
  read : ∀ w out d, R w out d → out ≠ [] → ∀ n, 0 < n → ∃ got left d', out = got ++ left ∧
    got ≠ [] ∧ Transport.read n d = (.ok got, d') ∧ R w left d' ∧ Bench.now d' = Bench.now d
  silent : ∀ w d, R w [] d → ∀ n, ∃ f d', f.kind.isIdle = true ∧
    Transport.read n d = (.error f, d') ∧ R w [] d'
  write : ∀ w out d, R w out d → ∀ bytes, ∃ d',
    Transport.write bytes d = (.ok (script.takes w bytes), d') ∧
      R (script.next w bytes) (out ++ script.reply w bytes) d'
  flush : ∀ w out d, R w out d → ∃ d', Transport.flush d = (.ok (), d') ∧ R w out d'

/-- The device follows the script from `w` on, and `out` was printed and not read. -/
def Transport.Plays (script : Script ω) (w : ω) (out : Bytes) (d : δ) : Prop :=
  ∃ R, Transport.Performs script R ∧ R w out d

open Transport

theorem Transport.Plays.performs : Performs script (Plays (δ := δ) script) where
  note := by
    rintro w out d ⟨R, hR, h⟩ level text
    exact ⟨R, hR, hR.note w out d h level text⟩
  setTimeout := by
    rintro w out d ⟨R, hR, h⟩ t
    obtain ⟨d', hset, h', hnow⟩ := hR.setTimeout w out d h t
    exact ⟨d', hset, ⟨R, hR, h'⟩, hnow⟩
  read := by
    rintro w out d ⟨R, hR, h⟩ hne n hn
    obtain ⟨got, left, d', hout, hgot, hread, h', hnow⟩ := hR.read w out d h hne n hn
    exact ⟨got, left, d', hout, hgot, hread, ⟨R, hR, h'⟩, hnow⟩
  silent := by
    rintro w d ⟨R, hR, h⟩ n
    obtain ⟨f, d', hf, hread, h'⟩ := hR.silent w d h n
    exact ⟨f, d', hf, hread, R, hR, h'⟩
  write := by
    rintro w out d ⟨R, hR, h⟩ bytes
    obtain ⟨d', hwrite, h'⟩ := hR.write w out d h bytes
    exact ⟨d', hwrite, R, hR, h'⟩
  flush := by
    rintro w out d ⟨R, hR, h⟩
    obtain ⟨d', hflush, h'⟩ := hR.flush w out d h
    exact ⟨d', hflush, R, hR, h'⟩

/-- Such a device gives what it has printed without a delay. -/
theorem Transport.Performs.feeds {R : ω → Bytes → δ → Prop} (hR : Performs script R) (w : ω) :
    Feeds fun _ out d => R w out d where
  setTimeout k out d h t := by
    obtain ⟨d', hset, h', hnow⟩ := hR.setTimeout w out d h t
    exact ⟨k, d', hset, h', Bench.within_of_now_eq hnow⟩
  read k out d h hne n hn := by
    obtain ⟨got, left, d', hout, hgot, hread, h', hnow⟩ := hR.read w out d h hne n hn
    exact ⟨k, d', .inl ⟨got, left, hout, hgot, hread, h'⟩, Bench.within_of_now_eq hnow⟩
  dry k d h n := by
    obtain ⟨f, d', _, hread, h'⟩ := hR.silent w d h n
    exact .inr ⟨f, d', hread, fun _ => ⟨k, h'⟩⟩

/-- What has been printed and not read can be read off the device. -/
theorem Transport.Plays.unique {ω' : Type} {script' : Script ω'} {w : ω} {w' : ω'} {out out' : Bytes}
    {d : δ} (h : Plays script w out d) (h' : Plays script' w' out' d) : out = out' := by
  induction hlen : out.length using Nat.strongRecOn generalizing out out' d with
  | ind n ih =>
    by_cases hne : out = []
    · subst hne
      by_cases hne' : out' = []
      · exact hne'.symm
      · obtain ⟨f, d₁, -, hread, -⟩ := Plays.performs.silent w d h 1
        obtain ⟨got, left, d₂, -, -, hread', -⟩ :=
          Plays.performs.read w' out' d h' hne' 1 Nat.one_pos
        cases hread.symm.trans hread'
    · obtain ⟨got, left, d₁, rfl, hgot, hread, hleft, -⟩ :=
        Plays.performs.read w out d h hne 1 Nat.one_pos
      by_cases hne' : out' = []
      · subst hne'
        obtain ⟨f, d₂, -, hread', -⟩ := Plays.performs.silent w' d h' 1
        cases hread.symm.trans hread'
      · obtain ⟨got', left', d₂, rfl, -, hread', hleft', -⟩ :=
          Plays.performs.read w' out' d h' hne' 1 Nat.one_pos
        cases hread.symm.trans hread'
        have hlt : left.length < n := by
          have := List.length_pos_iff.2 hgot
          rw [List.length_append] at hlen
          omega
        rw [ih left.length hlt hleft hleft' rfl]

namespace Session

/-! ## One session -/

theorem fill_of_silent (wait : Span) {s : Session δ} {w : ω} (h : Plays script w [] s.device) :
    ∃ s', fill wait s = (.ok .idle, s') ∧ s'.buffer = s.buffer ∧ Plays script w [] s'.device := by
  obtain ⟨d₁, hset, h₁, -⟩ :=
    Plays.performs.setTimeout w [] s.device h ⟨max wait.nanos shortestWait.nanos⟩
  obtain ⟨f, d₂, hidle, hread, h₂⟩ := Plays.performs.silent w d₁ h₁ readChunk
  refine ⟨{ s with device := d₂ }, ?_, rfl, h₂⟩
  unfold fill
  rw [hset]
  simp only [hread, if_pos hidle]

/-- What comes of an expectation on a device that plays a script, if all that was printed splits like
this. -/
inductive Meets (script : Script ω) (w : ω) (ps : List Pattern) (timeout : Span) (stream : Bytes) :
    Option (Match × Bytes) → Except Error Match × Session δ → Prop
  | met {m : Match} {left : Bytes} {s' : Session δ} : Plays script w left s'.device →
      Meets script w ps timeout stream (some (m, s'.buffer ++ left)) (.ok m, s')
  | unmet {s' : Session δ} : Plays script w [] s'.device → s'.buffer = stream →
      Meets script w ps timeout stream none
        (.error (.streamTimeout (Pattern.describeAll ps) timeout (Text.lossy stream)), s')

/-- A wait that has all that was printed lasts until its time is over. -/
theorem givesUp_of_plays {start : Nat} {ps : List Pattern} {timeout : Span} {w : ω} :
    GivesUp (fun _ out d => Plays (δ := δ) script w out d)
      (fun stream r =>
        r.1 = .error (.streamTimeout (Pattern.describeAll ps) timeout (Text.lossy stream)) ∧
          r.2.buffer = stream ∧ Plays script w [] r.2.device)
      start ps timeout True where
  late _ s _ h _ := ⟨rfl, rfl, h⟩
  failed := by
    intro s wait e t _ h hfill
    obtain ⟨s', hidle, -⟩ := fill_of_silent wait h
    cases hidle.symm.trans hfill
  ended := by
    intro s wait t _ h hfill
    obtain ⟨s', hidle, -⟩ := fill_of_silent wait h
    cases hidle.symm.trans hfill
  idle _ _ _ _ _ _ _ _ := trivial

/-- An expectation that has any time does to all that was printed what `split?` does. -/
theorem expect_of_plays {ps : List Pattern} (hps : Pattern.Stable ps) {timeout : Span}
    (ht : 0 < timeout.nanos) {w : ω} {out : Bytes} {s : Session δ} (h : Plays script w out s.device) :
    Meets script w ps timeout (s.buffer ++ out) (Pattern.split? ps (s.buffer ++ out))
      (expect ps timeout s) := by
  have hproceeds : Proceeds _ _ ps 0 (s.buffer ++ out) (expect ps timeout s) :=
    expectSince_of_feeds (Plays.performs.feeds w) hps givesUp_of_plays s 0 out h (.inl (by omega))
  generalize expect ps timeout s = r at hproceeds ⊢
  cases hproceeds with
  | met hsplit hleft _ =>
    rw [hsplit]
    exact .met hleft
  | unmet hsplit hfail =>
    obtain ⟨x, s'⟩ := r
    obtain ⟨rfl, hbuffer, hsilent⟩ := hfail
    rw [hsplit]
    exact .unmet hsilent hbuffer

end Session

/-! ## Two sessions -/

/-- Behind the buffers `b` and `b'`, the devices are at the same place of the script, and the same was
written to both and told of both. -/
structure Recorded.Abreast (script : Script ω) (b b' : Bytes) (r : Recorded δ) (r' : Recorded ε) :
    Prop where
  written : Journal.written r'.journal = Journal.written r.journal
  told : Journal.told r'.journal = Journal.told r.journal
  stream : ∃ w out out', Plays script w out r.device ∧ Plays script w out' r'.device ∧
    b ++ out = b' ++ out'

theorem Recorded.Abreast.takeAlike (b b' : Bytes) :
    TakeAlike (Recorded.Abreast (δ := δ) (ε := ε) script b b') where
  write := by
    rintro bytes r r' ⟨hwritten, htold, w, out, out', h, h', hstream⟩
    obtain ⟨d, hd, h⟩ := Plays.performs.write w out r.device h bytes
    obtain ⟨d', hd', h'⟩ := Plays.performs.write w out' r'.device h' bytes
    have hr : Transport.write bytes r =
        (.ok (script.takes w bytes), ⟨d, r.journal ++ [.write bytes (.ok (script.takes w bytes))]⟩) :=
      Recorded.call_eq_iff.2 ⟨hd, rfl⟩
    have hr' : Transport.write bytes r' =
        (.ok (script.takes w bytes), ⟨d', r'.journal ++ [.write bytes (.ok (script.takes w bytes))]⟩) :=
      Recorded.call_eq_iff.2 ⟨hd', rfl⟩
    rw [hr, hr']
    refine ⟨rfl, ?_, ?_, _, _, _, h, h', ?_⟩
    · rw [Journal.written_append, Journal.written_append, hwritten]
    · rw [Journal.told_append, Journal.told_append, htold]
    · rw [← List.append_assoc, hstream, List.append_assoc]
  flush := by
    rintro r r' ⟨hwritten, htold, w, out, out', h, h', hstream⟩
    obtain ⟨d, hd, h⟩ := Plays.performs.flush w out r.device h
    obtain ⟨d', hd', h'⟩ := Plays.performs.flush w out' r'.device h'
    have hr : Transport.flush r = (.ok (), ⟨d, r.journal ++ [.flush (.ok ())]⟩) :=
      Recorded.call_eq_iff.2 ⟨hd, rfl⟩
    have hr' : Transport.flush r' = (.ok (), ⟨d', r'.journal ++ [.flush (.ok ())]⟩) :=
      Recorded.call_eq_iff.2 ⟨hd', rfl⟩
    rw [hr, hr']
    refine ⟨rfl, ?_, ?_, w, out, out', h, h', hstream⟩
    · rw [Journal.written_append, Journal.written_append, hwritten]
    · rw [Journal.told_append, Journal.told_append, htold]

namespace Session

/-- Sessions at the same place of a script, with the same stream to come. -/
def Abreast (script : Script ω) (s : Session (Recorded δ)) (t : Session (Recorded ε)) : Prop :=
  Recorded.Abreast script s.buffer t.buffer s.device t.device

theorem sendLine_abreast (line : Bytes) :
    Act.Relates (Abreast (δ := δ) (ε := ε) script) (sendLine line) (sendLine line) := by
  have write : Act.Relates (Abreast (δ := δ) (ε := ε) script)
      (onDevice (Transport.writeAll (line ++ lineEnd)))
      (onDevice (Transport.writeAll (line ++ lineEnd))) :=
    fun s t hst => (Recorded.Abreast.takeAlike s.buffer t.buffer).writeAll _ _ _ hst
  exact write.bind fun _ => .change fun _ _ hst => hst

/-- What an expectation comes to, and what is left of the stream, is fixed by how the stream splits. -/
theorem Meets.same {w : ω} {ps : List Pattern} {timeout : Span} {stream : Bytes}
    {o : Option (Match × Bytes)} {x y : Except Error Match} {s : Session δ} {t : Session ε}
    (h : Meets script w ps timeout stream o (x, s)) (h' : Meets script w ps timeout stream o (y, t)) :
    y = x ∧ ∃ out out', Plays script w out s.device ∧ Plays script w out' t.device ∧
      s.buffer ++ out = t.buffer ++ out' := by
  generalize hr : (x, s) = r at h
  generalize hr' : (y, t) = r' at h'
  cases h with
  | met hplays =>
    cases hr
    generalize ho : some _ = o at h'
    cases h' with
    | met hplays' =>
      cases hr'
      obtain ⟨rfl, hstream⟩ := Prod.mk.inj (Option.some.inj ho)
      exact ⟨rfl, _, _, hplays, hplays', hstream⟩
    | unmet _ _ => cases ho
  | unmet hplays hbuffer =>
    cases hr
    cases h' with
    | unmet hplays' hbuffer' =>
      cases hr'
      exact ⟨rfl, [], [], hplays, hplays', by rw [hbuffer, hbuffer']⟩

theorem expect_recorded_of_plays {ps : List Pattern} (hps : Pattern.Stable ps) {timeout : Span}
    (ht : 0 < timeout.nanos) {w : ω} {out : Bytes} {s s' : Session (Recorded δ)}
    {x : Except Error Match} (h : Plays script w out s.device.device)
    (hx : expect ps timeout s = (x, s')) :
    Journal.written s'.device.journal = Journal.written s.device.journal ∧
      Journal.told s'.device.journal = Journal.told s.device.journal ∧
      Meets script w ps timeout (s.buffer ++ out) (Pattern.split? ps (s.buffer ++ out))
        (x, s'.plain) := by
  obtain ⟨j, hj, hexp⟩ := expect_spec hx
  obtain ⟨_, hconsumes⟩ := hexp.consumes
  refine ⟨?_, ?_, ?_⟩
  · rw [hconsumes.journal, Journal.written_append, hj.written_nil, List.append_nil]
  · rw [hconsumes.journal, Journal.told_append, hj.told_nil, List.append_nil]
  · have hplain : expect ps timeout s.plain = (x, s'.plain) := by
      have hmirror := (expect_relates Recorded.inStep ps timeout).mirrors
        (fun s t => alike_recorded_iff) s
      rwa [hx] at hmirror
    have hmeets := expect_of_plays hps ht (s := s.plain) h
    rwa [hplain] at hmeets

theorem expect_abreast {ps : List Pattern} (hps : Pattern.Stable ps) {timeout : Span}
    (ht : 0 < timeout.nanos) :
    Act.Relates (Abreast (δ := δ) (ε := ε) script) (expect ps timeout) (expect ps timeout) := by
  rintro s t ⟨hwritten, htold, w, out, out', h, h', hstream⟩
  rcases hs : expect ps timeout s with ⟨x, s'⟩
  rcases ht' : expect ps timeout t with ⟨y, t'⟩
  obtain ⟨hw, hn, hmeets⟩ := expect_recorded_of_plays hps ht h hs
  obtain ⟨hw', hn', hmeets'⟩ := expect_recorded_of_plays hps ht h' ht'
  rw [← hstream] at hmeets'
  obtain ⟨hval, left, left', hleft, hleft', hrest⟩ := hmeets.same hmeets'
  exact ⟨hval, by rw [hw, hw', hwritten], by rw [hn, hn', htold], w, left, left', hleft, hleft', hrest⟩

/-- Sessions on two devices that play one script are in step, whatever pieces each of them reads, if
what is found of a report on a block stays what is found. -/
theorem abreast_inStep (hlib : (Bench.libraries ε).regexes = (Bench.libraries δ).regexes)
    (hreport : Pattern.Stable [.regex (Bench.libraries δ).regexes.blockReport]) :
    InStep (fun t => 0 < t.nanos) (Abreast (δ := δ) (ε := ε) script) where
  ok_of_pos _ h := h
  note level text := by
    rintro s t ⟨hwritten, htold, w, out, out', h, h', hstream⟩
    exact ⟨rfl, hwritten, htold, w, out, out', Plays.performs.note w out _ h level _,
      Plays.performs.note w out' _ h' level _, hstream⟩
  sendLine := sendLine_abreast
  expect _ _ hps ht := expect_abreast hps ht
  report _ ht := by
    show Act.Relates _ (expect [.regex (Bench.libraries δ).regexes.blockReport] _)
      (expect [.regex (Bench.libraries ε).regexes.blockReport] _)
    rw [hlib]
    exact expect_abreast hreport ht

/-- Telling of progress keeps sessions in step if it leaves the devices in their places. -/
theorem tell_abreast {progress : Nat → Nat → δ → δ} {progress' : Nat → Nat → ε → ε}
    (hp : ∀ done total w out d, Plays script w out d → Plays script w out (progress done total d))
    (hp' : ∀ done total w out d, Plays script w out d → Plays script w out (progress' done total d))
    (done total : Nat) :
    Act.Relates (Abreast script) (touch (Recorded.tell progress done total))
      (touch (Recorded.tell progress' done total)) := by
  refine .change ?_
  rintro s t ⟨hwritten, htold, w, out, out', h, h', hstream⟩
  refine ⟨?_, ?_, w, out, out', hp done total w out _ h, hp' done total w out' _ h', hstream⟩
  · show Journal.written (t.device.journal ++ _) = Journal.written (s.device.journal ++ _)
    rw [Journal.written_append, Journal.written_append, hwritten]
  · show Journal.told (t.device.journal ++ _) = Journal.told (s.device.journal ++ _)
    rw [Journal.told_append, Journal.told_append, htold]

end Session
end BoardBench
