import BoardBench.Proofs.Session.Stream

/-!
# Devices that deliver

`Delivers slack bytes d` says that the device `d` gives `bytes` and then no more, in pieces of any
size, that no call on it fails before that, and that no more than `slack` passes until all of it is
given. What comes then, silence, the end of the stream or a failure, is left open.

On such a device an expectation that has more time than that does to the whole stream what
`Pattern.split?` does to it, however the bytes are cut into reads (`expect_of_delivers`).
-/

namespace BoardBench

variable {δ : Type} [Bench δ] [Transport δ]

/-- From `d`, with `slack` left, to `d'`, with `slack'` left. -/
def Bench.Within (slack : Nat) (d : δ) (slack' : Nat) (d' : δ) : Prop :=
  now d ≤ now d' ∧ now d' + slack' ≤ now d + slack

omit [Transport δ] in
theorem Bench.within_of_now_eq {k : Nat} {d d' : δ} (h : now d' = now d) : Within k d k d' :=
  ⟨Nat.le_of_eq h.symm, Nat.le_of_eq (congrArg (· + k) h)⟩

/-- Each call on a device keeps the relation between it, what it has to give and the time it takes. -/
structure Transport.Feeds (R : Nat → Bytes → δ → Prop) : Prop where
  setTimeout : ∀ k bytes d, R k bytes d → ∀ t, ∃ k' d', Transport.setTimeout t d = (.ok (), d') ∧
    R k' bytes d' ∧ Bench.Within k d k' d'
  /-- While there is something to give, a read gives some of it or waits. -/
  read : ∀ k bytes d, R k bytes d → bytes ≠ [] → ∀ n, 0 < n → ∃ k' d',
    ((∃ got left, bytes = got ++ left ∧ got ≠ [] ∧ Transport.read n d = (.ok got, d') ∧
        R k' left d') ∨
      ∃ f, f.kind.isIdle = true ∧ Transport.read n d = (.error f, d') ∧ R k' bytes d') ∧
    Bench.Within k d k' d'
  /-- Then it gives nothing. -/
  dry : ∀ k d, R k [] d → ∀ n,
    (∃ d', Transport.read n d = (.ok [], d')) ∨ ∃ f d', Transport.read n d = (.error f, d') ∧
      (f.kind.isIdle = true → ∃ k', R k' [] d')

/-- The device gives the bytes within `slack`, and then no more. -/
def Transport.Delivers (slack : Nat) (bytes : Bytes) (d : δ) : Prop :=
  ∃ R, Transport.Feeds R ∧ R slack bytes d

open Transport Bench

theorem Transport.Delivers.feeds : Feeds (Delivers (δ := δ)) := by
  refine ⟨?_, ?_, ?_⟩
  · rintro k bytes d ⟨R, hR, h⟩ t
    obtain ⟨k', d', hset, h', hw⟩ := hR.setTimeout k bytes d h t
    exact ⟨k', d', hset, ⟨R, hR, h'⟩, hw⟩
  · rintro k bytes d ⟨R, hR, h⟩ hne n hn
    obtain ⟨k', d', hr, hw⟩ := hR.read k bytes d h hne n hn
    refine ⟨k', d', ?_, hw⟩
    rcases hr with ⟨got, left, hb, hg, hread, h'⟩ | ⟨f, hf, hread, h'⟩
    · exact .inl ⟨got, left, hb, hg, hread, R, hR, h'⟩
    · exact .inr ⟨f, hf, hread, R, hR, h'⟩
  · rintro k d ⟨R, hR, h⟩ n
    rcases hR.dry k d h n with hend | ⟨f, d', hread, h'⟩
    · exact .inl hend
    · refine .inr ⟨f, d', hread, fun hf => ?_⟩
      obtain ⟨k', h'⟩ := h' hf
      exact ⟨k', R, hR, h'⟩

namespace Session

/-- While there is something to give, a read fails at no moment and takes some of it or nothing. -/
theorem fill_of_feeds {R : Nat → Bytes → δ → Prop} (hR : Feeds R) {wait : Span} {s : Session δ}
    {k : Nat} {bytes : Bytes} (h : R k bytes s.device) (hne : bytes ≠ []) :
    ∃ f k' got left s', fill wait s = (.ok f, s') ∧ f ≠ .ended ∧ bytes = got ++ left ∧
      s'.buffer = s.buffer ++ got ∧ R k' left s'.device ∧ Within k s.device k' s'.device := by
  obtain ⟨k₁, d₁, hset, h₁, hw₁⟩ := hR.setTimeout _ _ _ h ⟨max wait.nanos shortestWait.nanos⟩
  obtain ⟨k₂, d₂, hr, hw₂⟩ := hR.read _ _ _ h₁ hne readChunk (by decide)
  have hw : Within k s.device k₂ d₂ :=
    ⟨Nat.le_trans hw₁.1 hw₂.1, Nat.le_trans hw₂.2 hw₁.2⟩
  rcases hr with ⟨got, left, hb, hg, hread, h₂⟩ | ⟨f, hf, hread, h₂⟩
  · refine ⟨.data, k₂, got, left, copyToLog got { s with device := d₂, buffer := s.buffer ++ got },
      ?_, nofun, hb, rfl, h₂, hw⟩
    unfold fill
    rw [hset]
    simp only [hread]
  · refine ⟨.idle, k₂, [], bytes, { s with device := d₂ }, ?_, nofun, rfl,
      (List.append_nil _).symm, h₂, hw⟩
    unfold fill
    rw [hset]
    simp only [hread, hf, ↓reduceIte]

/-- When all has been given, a read takes nothing. -/
theorem fill_of_dry {R : Nat → Bytes → δ → Prop} (hR : Feeds R) {wait : Span} {s s' : Session δ}
    {k : Nat} {x : Except Error Fill} (h : R k [] s.device) (hx : fill wait s = (x, s')) :
    s'.buffer = s.buffer ∧ ∀ f, x = .ok f → f ≠ .ended → ∃ k', R k' [] s'.device := by
  obtain ⟨k₁, d₁, hset, h₁, -⟩ := hR.setTimeout _ _ _ h ⟨max wait.nanos shortestWait.nanos⟩
  unfold fill at hx
  rw [hset] at hx
  rcases hR.dry _ _ h₁ readChunk with ⟨d', hread⟩ | ⟨f, d', hread, hidle⟩
  · simp only [hread] at hx
    cases hx
    exact ⟨rfl, fun f hf hne => absurd (Except.ok.inj hf).symm hne⟩
  · simp only [hread] at hx
    split at hx
    · rename_i hf
      cases hx
      exact ⟨rfl, fun _ _ _ => hidle hf⟩
    · cases hx
      exact ⟨rfl, nofun⟩

section

variable {R : Nat → Bytes → δ → Prop} {Q : Bytes → Except Error Match × Session δ → Prop}
  {start : Nat} {ps : List Pattern} {timeout : Span} {patient : Prop}

/-- A wait that has all of the stream before it, without a match, comes to a result of which `Q` holds.
Only a patient one goes on until its time is over. -/
structure GivesUp (R : Nat → Bytes → δ → Prop) (Q : Bytes → Except Error Match × Session δ → Prop)
    (start : Nat) (ps : List Pattern) (timeout : Span) (patient : Prop) : Prop where
  late : patient → ∀ s k, R k [] s.device → timeout.nanos ≤ s.now - start →
    Q s.buffer (.error (.streamTimeout (Pattern.describeAll ps) timeout (Text.lossy s.buffer)), s)
  failed : ∀ s wait e t k, R k [] s.device → fill wait s = (.error e, t) → Q s.buffer (.error e, t)
  ended : ∀ s wait t k, R k [] s.device → fill wait s = (.ok .ended, t) →
    Q s.buffer (.error (.endOfStream (Pattern.describeAll ps) (Text.lossy t.buffer)), t)
  idle : ∀ s wait f t k, R k [] s.device → fill wait s = (.ok f, t) → f ≠ .ended → patient

/-- What comes of a wait with so much slack on a device that has this stream to give. -/
inductive Proceeds (R : Nat → Bytes → δ → Prop) (Q : Bytes → Except Error Match × Session δ → Prop)
    (ps : List Pattern) (k : Nat) (stream : Bytes) : Except Error Match × Session δ → Prop
  | met {m : Match} {left : Bytes} {k' : Nat} {s' : Session δ} :
      Pattern.split? ps stream = some (m, s'.buffer ++ left) → R k' left s'.device → k' ≤ k →
      Proceeds R Q ps k stream (.ok m, s')
  | unmet {r : Except Error Match × Session δ} : Pattern.split? ps stream = none → Q stream r →
      Proceeds R Q ps k stream r

omit [Bench δ] [Transport δ] in
theorem Proceeds.mono {k l : Nat} {stream : Bytes} {r : Except Error Match × Session δ}
    (h : Proceeds R Q ps k stream r) (hkl : k ≤ l) : Proceeds R Q ps l stream r := by
  cases h with
  | met hsplit hR hk => exact .met hsplit hR (Nat.le_trans hk hkl)
  | unmet hsplit hQ => exact .unmet hsplit hQ

/-- The outcome depends on the whole stream alone, and not on how it is cut into reads. While there is
something to give there is time left; when there is not, a patient wait may last until it is over. -/
theorem expectSince_of_feeds (hR : Feeds R) (hps : Pattern.Stable ps)
    (hQ : GivesUp R Q start ps timeout patient) (s : Session δ) : ∀ k bytes, R k bytes s.device →
      s.now - start + k < timeout.nanos ∨ bytes = [] ∧ patient →
      Proceeds R Q ps k (s.buffer ++ bytes) (expectSince start ps timeout s) := by
  refine expectSince_rounds (fun s r => ∀ k bytes, R k bytes s.device →
    s.now - start + k < timeout.nanos ∨ bytes = [] ∧ patient →
    Proceeds R Q ps k (s.buffer ++ bytes) r) ?met ?late ?failed ?ended ?next s
  case met =>
    intro s m rest hsplit k bytes h _
    exact .met (hps.split?_append hsplit) h (Nat.le_refl k)
  case late =>
    rintro s hn hlate k bytes h (htime | ⟨rfl, hpatient⟩)
    · omega
    · rw [List.append_nil]
      exact .unmet hn (hQ.late hpatient s k h hlate)
  case failed =>
    intro s wait e t hn _ hfill k bytes h _
    by_cases hb : bytes = []
    · subst hb
      rw [List.append_nil]
      exact .unmet hn (hQ.failed s wait e t k h hfill)
    · obtain ⟨f, k', got, left, s', hok, -⟩ := fill_of_feeds hR h hb
      cases hok.symm.trans hfill
  case ended =>
    intro s wait t hn _ hfill k bytes h _
    by_cases hb : bytes = []
    · subst hb
      rw [List.append_nil]
      exact .unmet hn (hQ.ended s wait t k h hfill)
    · obtain ⟨f, k', got, left, s', hok, hne, -⟩ := fill_of_feeds hR h hb
      cases hok.symm.trans hfill
      exact absurd rfl hne
  case next =>
    intro s wait f t r hn _ hfill hne ih k bytes h htime
    by_cases hb : bytes = []
    · subst hb
      obtain ⟨hbuffer, hleft⟩ := fill_of_dry hR h hfill
      obtain ⟨k', h'⟩ := hleft f rfl hne
      have := ih k' [] h' (.inr ⟨rfl, hQ.idle s wait f t k h hfill hne⟩)
      rw [hbuffer, List.append_nil] at this
      rw [List.append_nil]
      cases this with
      | met hsplit _ _ => cases hn.symm.trans hsplit
      | unmet _ hr => exact .unmet hn hr
    · obtain ⟨f', k', got, left, s', hok, -, hgl, hbuffer, h', hw⟩ := fill_of_feeds hR h hb
      cases hok.symm.trans hfill
      have hlt := htime.resolve_right fun hnil => hb hnil.1
      have hle : k' ≤ k ∧ t.now - start + k' ≤ s.now - start + k := by
        obtain ⟨_, _⟩ := hw
        unfold now
        omega
      have := ih k' left h' (.inl (Nat.lt_of_le_of_lt hle.2 hlt))
      rw [hbuffer, List.append_assoc, ← hgl] at this
      exact this.mono hle.1

end

/-- What comes of an expectation on a device that delivers, if its stream splits like this. -/
inductive Grants (k : Nat) : Option (Match × Bytes) → Except Error Match × Session δ → Prop
  | met {m : Match} {left : Bytes} {k' : Nat} {s' : Session δ} : Delivers k' left s'.device → k' ≤ k →
      Grants k (some (m, s'.buffer ++ left)) (.ok m, s')
  | unmet {e : Error} {s' : Session δ} : Grants k none (.error e, s')

theorem givesUp_of_delivers {start : Nat} {ps : List Pattern} {timeout : Span} :
    GivesUp (Delivers (δ := δ)) (fun _ r => ∃ e s', r = (.error e, s')) start ps timeout True where
  late _ s _ _ _ := ⟨_, s, rfl⟩
  failed _ _ e t _ _ _ := ⟨e, t, rfl⟩
  ended _ _ t _ _ _ := ⟨_, t, rfl⟩
  idle _ _ _ _ _ _ _ _ := trivial

/-- An expectation that has more time than the device needs does to the whole stream what `split?`
does. -/
theorem expect_of_delivers {ps : List Pattern} (hps : Pattern.Stable ps) {timeout : Span}
    {s : Session δ} {k : Nat} {bytes : Bytes} (h : Delivers k bytes s.device)
    (hk : k < timeout.nanos) :
    Grants k (Pattern.split? ps (s.buffer ++ bytes)) (expect ps timeout s) := by
  have hproceeds : Proceeds Delivers _ ps k (s.buffer ++ bytes) (expect ps timeout s) :=
    expectSince_of_feeds Delivers.feeds hps givesUp_of_delivers s k bytes h (.inl (by omega))
  generalize expect ps timeout s = r at hproceeds
  cases hproceeds with
  | met hsplit hleft hk' =>
    rw [hsplit]
    exact .met hleft hk'
  | unmet hsplit hfail =>
    obtain ⟨e, s', rfl⟩ := hfail
    rw [hsplit]
    exact .unmet

theorem split?_eq_none_of_delivers {ps : List Pattern} (hps : Pattern.Stable ps) {timeout : Span}
    {s s' : Session δ} {k : Nat} {bytes : Bytes} {e : Error} (h : Delivers k bytes s.device)
    (hk : k < timeout.nanos) (hx : expect ps timeout s = (.error e, s')) :
    Pattern.split? ps (s.buffer ++ bytes) = none := by
  have hg := expect_of_delivers hps h hk
  rw [hx] at hg
  generalize Pattern.split? ps (s.buffer ++ bytes) = o at hg
  cases hg
  rfl

theorem split?_eq_some_of_delivers {ps : List Pattern} (hps : Pattern.Stable ps) {timeout : Span}
    {s s' : Session δ} {k : Nat} {bytes : Bytes} {m : Match} (h : Delivers k bytes s.device)
    (hk : k < timeout.nanos) (hx : expect ps timeout s = (.ok m, s')) :
    ∃ left k', Pattern.split? ps (s.buffer ++ bytes) = some (m, s'.buffer ++ left) ∧
      Delivers k' left s'.device ∧ k' ≤ k := by
  have hg := expect_of_delivers hps h hk
  rw [hx] at hg
  generalize Pattern.split? ps (s.buffer ++ bytes) = o at hg
  cases hg with
  | met hd hk' => exact ⟨_, _, rfl, hd, hk'⟩

end Session
end BoardBench
