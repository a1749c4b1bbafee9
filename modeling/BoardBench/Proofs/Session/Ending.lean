import BoardBench.Proofs.Session.Delivery

/-!
# Streams that end

`Gives ending slack bytes d` says that the device `d` delivers `bytes` within `slack`, and that the
stream then goes on as `ending` says: in silence, closed, or with a fault at each read. An expectation
on such a device that has more time than that does to the whole stream what `Pattern.split?` does, and
where that finds nothing it has read all of it, and fails as the stream ends (`expect_of_offers`).
-/

namespace BoardBench

/-- How a stream goes on when all of it was given. -/
inductive Ending where
  | silence
  | closed
  | broken (fault : Fault)

namespace Ending

/-- What each read answers from then on. -/
inductive Answers : Ending → Except Fault Bytes → Prop
  | silence {f : Fault} : f.kind.isIdle = true → Answers silence (.error f)
  | closed : Answers closed (.ok [])
  | broken {f : Fault} : f.kind.isIdle = false → Answers (broken f) (.error f)

/-- What a session makes of such a read. -/
def filled : Ending → Except Error Fill
  | silence => .ok .idle
  | closed => .ok .ended
  | broken f => .error (.io f)

/-- The error of a wait for patterns that found none of them in the stream. -/
def error (ps : List Pattern) (timeout : Span) (stream : Bytes) : Ending → Error
  | silence => .streamTimeout (Pattern.describeAll ps) timeout (Text.lossy stream)
  | closed => .endOfStream (Pattern.describeAll ps) (Text.lossy stream)
  | broken f => .io f

end Ending

variable {δ : Type} [Bench δ] [Transport δ] {ending : Ending}

/-- Besides, when there is nothing left to give, reads answer as the ending says. -/
structure Transport.FeedsUntil (ending : Ending) (R : Nat → Bytes → δ → Prop) : Prop
    extends Transport.Feeds R where
  ends : ∀ k d, R k [] d → ∀ n, ending.Answers (Transport.read n d).1

/-- The device gives the bytes within `slack`, and then the stream goes on as the ending says. -/
def Transport.Gives (ending : Ending) (slack : Nat) (bytes : Bytes) (d : δ) : Prop :=
  ∃ R, Transport.FeedsUntil ending R ∧ R slack bytes d

open Transport Bench

theorem Transport.Gives.delivers {k : Nat} {bytes : Bytes} {d : δ} (h : Gives ending k bytes d) :
    Delivers k bytes d := by
  obtain ⟨R, hR, h⟩ := h
  exact ⟨R, hR.toFeeds, h⟩

theorem Transport.Gives.feeds : FeedsUntil ending (Gives (δ := δ) ending) := by
  refine ⟨⟨?_, ?_, ?_⟩, ?_⟩
  · rintro k bytes d ⟨R, hR, h⟩ t
    obtain ⟨k', d', hset, h', hw⟩ := hR.setTimeout k bytes d h t
    exact ⟨k', d', hset, ⟨R, hR, h'⟩, hw⟩
  · rintro k bytes d ⟨R, hR, h⟩ hne n hn
    obtain ⟨k', d', hr, hw⟩ := hR.read k bytes d h hne n hn
    refine ⟨k', d', ?_, hw⟩
    rcases hr with ⟨got, left, hb, hg, hread, h'⟩ | ⟨f, hf, hread, h'⟩
    · exact .inl ⟨got, left, hb, hg, hread, R, hR, h'⟩
    · exact .inr ⟨f, hf, hread, R, hR, h'⟩
  · rintro k d ⟨R, hR, h⟩ n
    rcases hR.dry k d h n with hend | ⟨f, d', hread, h'⟩
    · exact .inl hend
    · refine .inr ⟨f, d', hread, fun hf => ?_⟩
      obtain ⟨k', h'⟩ := h' hf
      exact ⟨k', R, hR, h'⟩
  · rintro k d ⟨R, hR, h⟩ n
    exact hR.ends k d h n

namespace Session

/-- When all has been given, a read comes to what the ending says and takes nothing. -/
theorem fill_of_spent (wait : Span) {s : Session δ} {k : Nat} (h : Gives ending k [] s.device) :
    ∃ s', fill wait s = (ending.filled, s') ∧ s'.buffer = s.buffer := by
  obtain ⟨k₁, d₁, hset, h₁, -⟩ := Gives.feeds.setTimeout _ _ _ h
    ⟨max wait.nanos shortestWait.nanos⟩
  have hends := Gives.feeds.ends _ _ h₁ readChunk
  unfold fill
  rw [hset]
  rcases Gives.feeds.dry _ _ h₁ readChunk with ⟨d', hread⟩ | ⟨f, d', hread, -⟩
  · rw [hread] at hends
    cases hends with
    | closed =>
      simp only [hread]
      exact ⟨_, rfl, rfl⟩
  · rw [hread] at hends
    simp only [hread]
    cases hends with
    | silence hf => exact ⟨_, if_pos hf, rfl⟩
    | broken hf => exact ⟨_, if_neg (by rw [hf]; exact Bool.false_ne_true), rfl⟩

/-- Sending leaves what was read. -/
theorem send_buffer {bytes : Bytes} {s s' : Session δ} {x : Except Error Unit}
    (h : send bytes s = (x, s')) : s'.buffer = s.buffer := by
  obtain ⟨e, hwrite, rfl⟩ | ⟨_, t, hwrite, hlog⟩ := Act.bind_eq_iff.1 h
  · obtain ⟨d, -, rfl⟩ := Act.zoom_eq_iff.1 hwrite
    rfl
  · obtain ⟨d, -, rfl⟩ := Act.zoom_eq_iff.1 hwrite
    cases hlog
    rfl

/-- The stream that the session has yet to hand out: what is buffered, and what the device gives. -/
def Offers (ending : Ending) (slack : Nat) (stream : Bytes) (s : Session δ) : Prop :=
  ∃ bytes, Gives ending slack bytes s.device ∧ stream = s.buffer ++ bytes

/-- What comes of an expectation on a session that offers the stream. -/
inductive Settles (ending : Ending) (ps : List Pattern) (timeout : Span) (slack : Nat)
    (stream : Bytes) : Except Error Match × Session δ → Prop
  | met {m : Match} {rest : Bytes} {k : Nat} {s' : Session δ} :
      Pattern.split? ps stream = some (m, rest) → Offers ending k rest s' → k ≤ slack →
      Settles ending ps timeout slack stream (.ok m, s')
  | unmet {s' : Session δ} : Pattern.split? ps stream = none → s'.buffer = stream →
      Settles ending ps timeout slack stream (.error (ending.error ps timeout stream), s')

/-- A wait that has all of the stream fails as the stream ends, and only in silence does it go on. -/
theorem givesUp_of_gives {start : Nat} {ps : List Pattern} {timeout : Span} :
    GivesUp (Gives (δ := δ) ending)
      (fun stream r => r.1 = .error (ending.error ps timeout stream) ∧ r.2.buffer = stream)
      start ps timeout (ending = .silence) where
  late := by
    rintro rfl s k _ _
    exact ⟨rfl, rfl⟩
  failed := by
    intro s wait e t k h hfill
    obtain ⟨s', hspent, hbuffer⟩ := fill_of_spent wait h
    obtain ⟨hending, rfl⟩ := Prod.mk.inj (hspent.symm.trans hfill)
    cases ending with
    | silence | closed => cases hending
    | broken f =>
      obtain rfl := Except.error.inj hending
      exact ⟨rfl, hbuffer⟩
  ended := by
    intro s wait t k h hfill
    obtain ⟨s', hspent, hbuffer⟩ := fill_of_spent wait h
    obtain ⟨hending, rfl⟩ := Prod.mk.inj (hspent.symm.trans hfill)
    cases ending with
    | silence | broken => cases hending
    | closed => exact ⟨by rw [hbuffer]; rfl, hbuffer⟩
  idle := by
    intro s wait f t k h hfill hne
    obtain ⟨s', hspent, -⟩ := fill_of_spent wait h
    obtain ⟨hending, -⟩ := Prod.mk.inj (hspent.symm.trans hfill)
    cases ending with
    | silence => rfl
    | closed => exact absurd (Except.ok.inj hending).symm hne
    | broken => cases hending

/-- An expectation that has more time than the device needs does to the whole stream what `split?`
does, and if that finds nothing it fails as the stream ends. -/
theorem expect_of_offers {ps : List Pattern} (hps : Pattern.Stable ps) {timeout : Span}
    {s : Session δ} {k : Nat} {stream : Bytes} (h : Offers ending k stream s)
    (hk : k < timeout.nanos) : Settles ending ps timeout k stream (expect ps timeout s) := by
  obtain ⟨bytes, hg, rfl⟩ := h
  have hproceeds : Proceeds (Gives ending) _ ps k (s.buffer ++ bytes) (expect ps timeout s) :=
    expectSince_of_feeds Gives.feeds.toFeeds hps givesUp_of_gives s k bytes hg (.inl (by omega))
  generalize expect ps timeout s = r at hproceeds ⊢
  cases hproceeds with
  | met hsplit hleft hk' => exact .met hsplit ⟨_, hleft, rfl⟩ hk'
  | unmet hsplit hfail =>
    obtain ⟨x, s'⟩ := r
    obtain ⟨rfl, hbuffer⟩ := hfail
    exact .unmet hsplit hbuffer

end Session
end BoardBench
