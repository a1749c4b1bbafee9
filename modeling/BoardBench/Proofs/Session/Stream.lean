import BoardBench.Proofs.Journal
import BoardBench.Proofs.Session.Rounds

/-!
# The stream of a session

The stream of a recorded session is its buffer followed by what its calls bring in.
`Consumes s j bytes s'` says that the calls `j` led from `s` to `s'` and that `bytes` were handed
out of the stream meanwhile. Whatever the device does, a send consumes nothing and writes a front
part of what is sent (`send_spec`), and an expectation writes nothing and hands out what stands
before the earliest match in all that it has read (`expect_spec`).
-/

namespace BoardBench

open Journal

variable {δ : Type}

theorem Recorded.call_eq_iff {α : Type} {entry : α → Call} {x : δ → α × δ} {r r' : Recorded δ}
    {a : α} :
    Recorded.call entry x r = (a, r') ↔
      x r.device = (a, r'.device) ∧ r'.journal = r.journal ++ [entry a] := by
  unfold Recorded.call
  rcases x r.device with ⟨b, d⟩
  rcases r' with ⟨d', j⟩
  constructor
  · intro h
    cases h
    exact ⟨rfl, rfl⟩
  · rintro ⟨h, rfl⟩
    cases h
    rfl

namespace Session

/-- The calls `j` led from `s` to `s'`, and `bytes` were handed out of the stream. -/
structure Consumes (s : Session (Recorded δ)) (j : Journal) (bytes : Bytes)
    (s' : Session (Recorded δ)) : Prop where
  journal : s'.device.journal = s.device.journal ++ j
  stream : s.buffer ++ received j = bytes ++ s'.buffer

namespace Consumes

variable {s t u : Session (Recorded δ)} {j k : Journal} {bytes more : Bytes}

theorem refl (s : Session (Recorded δ)) : s.Consumes [] [] s := ⟨by simp, by simp⟩

theorem trans (h1 : s.Consumes j bytes t) (h2 : t.Consumes k more u) :
    s.Consumes (j ++ k) (bytes ++ more) u := by
  refine ⟨by rw [h2.journal, h1.journal, List.append_assoc], ?_⟩
  rw [received_append, ← List.append_assoc, h1.stream, List.append_assoc, h2.stream,
    List.append_assoc]

/-- What was handed out, if what came in is known. -/
theorem nil_iff : s.Consumes j [] t ↔
    t.device.journal = s.device.journal ++ j ∧ t.buffer = s.buffer ++ received j :=
  ⟨fun h => ⟨h.journal, h.stream.symm⟩, fun h => ⟨h.1, h.2.symm⟩⟩

end Consumes

/-- Besides, what was written is a front part of `out`, and what was told a front part of `news`. -/
structure Exchanges (s : Session (Recorded δ)) (out : Bytes) (news : List (Nat × Nat)) (j : Journal)
    (bytes : Bytes) (s' : Session (Recorded δ)) : Prop extends s.Consumes j bytes s' where
  written : written j <+: out
  told : told j <+: news

namespace Exchanges

variable {s t u : Session (Recorded δ)} {j k : Journal} {out out' bytes bytes' : Bytes}
  {news news' : List (Nat × Nat)}

theorem refl (s : Session (Recorded δ)) (out : Bytes) (news : List (Nat × Nat)) :
    s.Exchanges out news [] [] s :=
  ⟨.refl s, List.nil_prefix, List.nil_prefix⟩

/-- What is written later goes behind what was written in full. -/
theorem trans (h1 : s.Exchanges out news j bytes t) (hw : Journal.written j = out)
    (ht : Journal.told j = news) (h2 : t.Exchanges out' news' k bytes' u) :
    s.Exchanges (out ++ out') (news ++ news') (j ++ k) (bytes ++ bytes') u := by
  refine ⟨h1.toConsumes.trans h2.toConsumes, ?_, ?_⟩
  · rw [written_append, hw]
    exact (List.prefix_append_right_inj out).2 h2.written
  · rw [told_append, ht]
    exact (List.prefix_append_right_inj news).2 h2.told

theorem listen (h : s.Exchanges out news j bytes t) (hc : t.Consumes k bytes' u) (hk : Listens k) :
    s.Exchanges out news (j ++ k) (bytes ++ bytes') u := by
  refine ⟨h.toConsumes.trans hc, ?_, ?_⟩
  · rw [written_append, hk.written_nil, List.append_nil]
    exact h.written
  · rw [told_append, hk.told_nil, List.append_nil]
    exact h.told

theorem mono (h : s.Exchanges out news j bytes t) (out' : Bytes) (news' : List (Nat × Nat)) :
    s.Exchanges (out ++ out') (news ++ news') j bytes t :=
  ⟨h.toConsumes, h.written.trans (List.prefix_append _ _), h.told.trans (List.prefix_append _ _)⟩

/-- No call gets beyond the end of what may be written. -/
theorem written_le {p q : Journal} {call : Call}
    (h : s.Exchanges out news (p ++ call :: q) bytes t) :
    (Journal.written (p ++ [call])).length ≤ out.length := by
  refine Nat.le_trans ?_ h.written.length_le
  rw [show p ++ call :: q = p ++ [call] ++ q by simp, written_append _ q, List.length_append]
  exact Nat.le_add_right _ _

end Exchanges

theorem Consumes.exchanges {s t : Session (Recorded δ)} {j : Journal} {bytes : Bytes}
    (h : s.Consumes j bytes t) (hj : Listens j) : s.Exchanges [] [] j bytes t :=
  ⟨h, List.prefix_nil.2 hj.written_nil, List.prefix_nil.2 hj.told_nil⟩

/-- The last of the calls failed with this error. -/
def FailsWith (j : Journal) (e : Error) : Prop :=
  ∃ k, (∃ t, j = k ++ [.setTimeout t (.error e)]) ∨ ∃ f, j = k ++ [.read (.error f)] ∧ e = .io f

theorem FailsWith.append {k : Journal} {e : Error} (h : FailsWith k e) (j : Journal) :
    FailsWith (j ++ k) e := by
  obtain ⟨l, ⟨t, rfl⟩ | ⟨f, rfl, rfl⟩⟩ := h
  · exact ⟨j ++ l, .inl ⟨t, (List.append_assoc _ _ _).symm⟩⟩
  · exact ⟨j ++ l, .inr ⟨f, (List.append_assoc _ _ _).symm, rfl⟩⟩

/-- Why an expectation failed that made the calls `j` and left `buffer`. -/
inductive Unmet (ps : List Pattern) (timeout : Span) (j : Journal) (buffer : Bytes) : Error → Prop
  | silent : Unmet ps timeout j buffer
      (.streamTimeout (Pattern.describeAll ps) timeout (Text.lossy buffer))
  | ended : Unmet ps timeout j buffer (.endOfStream (Pattern.describeAll ps) (Text.lossy buffer))
  | failed {e : Error} : FailsWith j e → Unmet ps timeout j buffer e

/-- What comes of an expectation: it splits all that it has read at the earliest match, or it fails
and there is none in that. -/
inductive Expects (ps : List Pattern) (timeout : Span) (s : Session (Recorded δ)) (j : Journal)
    (s' : Session (Recorded δ)) : Except Error Match → Prop
  | met {m : Match} : s.Consumes j (m.before ++ m.matched) s' →
      Pattern.split? ps (s.buffer ++ received j) = some (m, s'.buffer) →
      Expects ps timeout s j s' (.ok m)
  | unmet {e : Error} : s.Consumes j [] s' → Pattern.split? ps s'.buffer = none →
      Unmet ps timeout j s'.buffer e → Expects ps timeout s j s' (.error e)

theorem Expects.consumes {ps : List Pattern} {timeout : Span} {s s' : Session (Recorded δ)}
    {j : Journal} {x : Except Error Match} (h : Expects ps timeout s j s' x) :
    ∃ bytes, s.Consumes j bytes s' := by
  cases h with
  | met hc _ => exact ⟨_, hc⟩
  | unmet hc _ _ => exact ⟨_, hc⟩

/-- What is read before an expectation counts as read by it. -/
theorem Expects.after {ps : List Pattern} {timeout : Span} {s t s' : Session (Recorded δ)}
    {j k : Journal} {x : Except Error Match} (h : Expects ps timeout t k s' x)
    (hs : s.Consumes j [] t) : Expects ps timeout s (j ++ k) s' x := by
  cases h with
  | met hc hsplit =>
    refine .met (hs.trans hc) ?_
    rw [received_append, ← List.append_assoc, ← (Consumes.nil_iff.1 hs).2]
    exact hsplit
  | unmet hc hsplit hu =>
    refine .unmet (hs.trans hc) hsplit ?_
    cases hu with
    | silent => exact .silent
    | ended => exact .ended
    | failed he => exact .failed (he.append j)

variable [Bench δ] [Transport δ]

/-! ## Sending -/

theorem writeLoop_spec (bytes : Bytes) (r : Recorded δ) :
    ∃ j, (Transport.writeLoop bytes r).2.journal = r.journal ++ j ∧ Sends bytes j ∧
      ((Transport.writeLoop bytes r).1 = .ok () → written j = bytes) := by
  -- the call that a round makes, before those of the later rounds
  have first {bytes rest : Bytes} {r d r' : Recorded δ} {x : Except Fault Nat} {j : Journal}
      (hw : Transport.write bytes r = (x, d)) (hj : r'.journal = d.journal ++ j) (hs : Sends rest j)
      (hbytes : writtenBy (.write bytes x) ++ rest = bytes) :
      r'.journal = r.journal ++ (.write bytes x :: j) ∧ Sends bytes (.write bytes x :: j) := by
    refine ⟨by rw [hj, (Recorded.call_eq_iff.1 hw).2, List.append_assoc]; rfl, ?_, ?_, ?_⟩
    · have := (List.prefix_append_right_inj (writtenBy (.write bytes x))).2 hs.written_prefix
      rwa [hbytes, ← written_cons] at this
    · rw [received_cons, hs.received_nil]
      rfl
    · rw [told_cons, hs.told_nil]
      rfl
  refine Transport.writeLoop_rounds (fun bytes r x => ∃ j, x.2.journal = r.journal ++ j ∧
    Sends bytes j ∧ (x.1 = .ok () → written j = bytes)) ?done ?again ?failed ?stuck ?more bytes r
  case done => exact fun r => ⟨[], (List.append_nil _).symm, ⟨List.nil_prefix, rfl, rfl⟩, fun _ => rfl⟩
  case again =>
    rintro bytes r f d x hw - ⟨j, hj, hs, hok⟩
    obtain ⟨hjournal, hsends⟩ := first hw hj hs rfl
    exact ⟨_, hjournal, hsends, fun hx => (written_cons _ _).trans (hok hx)⟩
  case failed =>
    exact fun bytes r f d hw => ⟨_, (Recorded.call_eq_iff.1 hw).2, ⟨List.nil_prefix, rfl, rfl⟩, nofun⟩
  case stuck =>
    exact fun bytes r d hw => ⟨_, (Recorded.call_eq_iff.1 hw).2, ⟨List.nil_prefix, rfl, rfl⟩, nofun⟩
  case more =>
    rintro bytes r n d x hw ⟨j, hj, hs, hok⟩
    obtain ⟨hjournal, hsends⟩ := first hw hj hs (List.take_append_drop _ _)
    refine ⟨_, hjournal, hsends, fun hx => ?_⟩
    rw [written_cons, hok hx]
    exact List.take_append_drop _ _

theorem writeAll_spec {bytes : Bytes} {r r' : Recorded δ} {x : Except Error Unit}
    (h : Transport.writeAll bytes r = (x, r')) :
    ∃ j, r'.journal = r.journal ++ j ∧ Sends bytes j ∧ (x = .ok () → written j = bytes) := by
  unfold Transport.writeAll at h
  split at h
  · rename_i f d hloop
    cases h
    obtain ⟨j, hj, hs, -⟩ := writeLoop_spec bytes r
    rw [hloop] at hj
    exact ⟨j, hj, hs, nofun⟩
  · rename_i u d hloop
    obtain ⟨j, hj, hs, hok⟩ := writeLoop_spec bytes r
    rw [hloop] at hj hok
    have hflush : ∀ y d', Transport.flush d = (y, d') →
        d'.journal = r.journal ++ (j ++ [.flush y]) := by
      intro y d' hf
      rw [(Recorded.call_eq_iff.1 hf).2, hj, List.append_assoc]
    have hsends : ∀ y, Sends bytes (j ++ [.flush y]) ∧ written (j ++ [.flush y]) = written j := by
      intro y
      have hw : written (j ++ [.flush y]) = written j := by
        rw [written_append]
        exact List.append_nil _
      refine ⟨⟨hw ▸ hs.written_prefix, ?_, ?_⟩, hw⟩
      · rw [received_append, hs.received_nil]
        rfl
      · rw [told_append, hs.told_nil]
        rfl
    split at h
    · rename_i f d' hf
      cases h
      exact ⟨_, hflush _ _ hf, (hsends _).1, nofun⟩
    · rename_i u' d' hf
      cases h
      exact ⟨_, hflush _ _ hf, (hsends _).1, fun _ => (hsends _).2.trans (hok rfl)⟩

/-- A send writes a front part of the bytes, all of them if it does not fail, and reads nothing. -/
theorem send_spec {bytes : Bytes} {s s' : Session (Recorded δ)} {x : Except Error Unit}
    (h : send bytes s = (x, s')) :
    ∃ j, s.Exchanges bytes [] j [] s' ∧ (x = .ok () → written j = bytes) := by
  unfold send onDevice at h
  rcases Act.bind_eq_iff.1 h with ⟨e, hw, rfl⟩ | ⟨u, t, hw, hlog⟩
  · obtain ⟨d, hd, rfl⟩ := Act.zoom_eq_iff.1 hw
    obtain ⟨j, hj, hs, -⟩ := writeAll_spec hd
    exact ⟨j, ⟨⟨hj, by simp [hs.received_nil]⟩, hs.written_prefix, List.prefix_nil.2 hs.told_nil⟩,
      nofun⟩
  · obtain ⟨d, hd, rfl⟩ := Act.zoom_eq_iff.1 hw
    obtain ⟨j, hj, hs, hok⟩ := writeAll_spec hd
    cases hlog
    exact ⟨j, ⟨⟨hj, by simp [hs.received_nil, copyToLog]⟩, hs.written_prefix,
      List.prefix_nil.2 hs.told_nil⟩, fun _ => hok rfl⟩

/-! ## Waiting -/

/-- What a session makes of the answer to a read. -/
def filled : Except Fault Bytes → Except Error Fill
  | .ok [] => .ok .ended
  | .ok (_ :: _) => .ok .data
  | .error f => if f.kind.isIdle then .ok .idle else .error (.io f)

theorem filled_eq_ended {y : Except Fault Bytes} (h : filled y = .ok .ended) : y = .ok [] := by
  rcases y with f | _ | ⟨b, bs⟩
  · simp only [filled] at h
    split at h <;> cases h
  · rfl
  · cases h

theorem filled_eq_error {y : Except Fault Bytes} {e : Error} (h : filled y = .error e) :
    ∃ f, y = .error f ∧ e = .io f := by
  rcases y with f | _ | ⟨b, bs⟩
  · simp only [filled] at h
    split at h <;> cases h
    exact ⟨f, rfl, rfl⟩
  · cases h
  · cases h

/-- A read is two calls, or one that fails; what came in is put behind the buffer. -/
theorem fill_calls {wait : Span} {s s' : Session (Recorded δ)} {x : Except Error Fill}
    (h : fill wait s = (x, s')) :
    ∃ t, (∃ e, x = .error e ∧ s'.device.journal = s.device.journal ++ [.setTimeout t (.error e)] ∧
        s'.buffer = s.buffer) ∨
      ∃ y, x = filled y ∧
        s'.device.journal = s.device.journal ++ [.setTimeout t (.ok ()), .read y] ∧
        s'.buffer = s.buffer ++ receivedBy (.read y) := by
  refine ⟨⟨max wait.nanos shortestWait.nanos⟩, ?_⟩
  unfold fill at h
  split at h
  · rename_i e d hset
    cases h
    exact .inl ⟨e, rfl, (Recorded.call_eq_iff.1 hset).2, rfl⟩
  · rename_i u d hset
    have hjournal {y : Except Fault Bytes} {d' : Recorded δ}
        (hread : Transport.read readChunk d = (y, d')) : d'.journal = s.device.journal ++
          [.setTimeout ⟨max wait.nanos shortestWait.nanos⟩ (.ok u), .read y] := by
      rw [(Recorded.call_eq_iff.1 hread).2, (Recorded.call_eq_iff.1 hset).2, List.append_assoc]
      rfl
    refine .inr ?_
    split at h
    · rename_i d' hread
      cases h
      exact ⟨_, rfl, hjournal hread, (List.append_nil _).symm⟩
    · rename_i bytes d' hne hread
      cases h
      cases bytes with
      | nil => exact absurd rfl hne
      | cons b bs => exact ⟨_, rfl, hjournal hread, rfl⟩
    · rename_i f d' hread
      refine ⟨.error f, ?_⟩
      split at h <;> rename_i hidle <;> cases h
      · exact ⟨(if_pos hidle).symm, hjournal hread, (List.append_nil _).symm⟩
      · exact ⟨(if_neg hidle).symm, hjournal hread, (List.append_nil _).symm⟩

/-- A read writes nothing and puts what came in behind the buffer. -/
theorem fill_spec {wait : Span} {s s' : Session (Recorded δ)} {x : Except Error Fill}
    (h : fill wait s = (x, s')) :
    ∃ j, s.Consumes j [] s' ∧ Listens j ∧ (x = .ok .data ∨ received j = []) ∧
      ∀ e, x = .error e → FailsWith j e := by
  obtain ⟨t, ⟨e, rfl, hjournal, hbuffer⟩ | ⟨y, rfl, hjournal, hbuffer⟩⟩ := fill_calls h
  · refine ⟨_, Consumes.nil_iff.2 ⟨hjournal, hbuffer.trans (List.append_nil _).symm⟩, ⟨rfl, rfl⟩,
      .inr rfl, fun e' he => ⟨[], .inl ⟨t, ?_⟩⟩⟩
    cases he
    rfl
  · have hreceived : received [.setTimeout t (.ok ()), .read y] = receivedBy (.read y) :=
      List.append_nil _
    refine ⟨_, Consumes.nil_iff.2 ⟨hjournal, hreceived ▸ hbuffer⟩, ⟨rfl, rfl⟩, ?_, fun e he => ?_⟩
    · rw [hreceived]
      rcases y with f | _ | ⟨b, bs⟩
      · exact .inr rfl
      · exact .inr rfl
      · exact .inl rfl
    · obtain ⟨f, rfl, rfl⟩ := filled_eq_error he
      exact ⟨[_], .inr ⟨f, rfl, rfl⟩⟩

theorem expectSince_spec (start : Nat) (ps : List Pattern) (timeout : Span)
    (s : Session (Recorded δ)) :
    ∃ j, Listens j ∧ Expects ps timeout s j (expectSince start ps timeout s).2
      (expectSince start ps timeout s).1 := by
  refine expectSince_rounds (fun s r => ∃ j, Listens j ∧ Expects ps timeout s j r.2 r.1)
    ?met ?late ?failed ?ended ?next s
  case met =>
    intro s m rest hsplit
    refine ⟨[], .nil, .met ⟨by simp, ?_⟩ ?_⟩
    · rw [received_nil, List.append_nil]
      exact Pattern.split?_append hsplit
    · rw [received_nil, List.append_nil]
      exact hsplit
  case late =>
    intro s hn _
    exact ⟨[], .nil, .unmet (.refl s) hn .silent⟩
  case failed =>
    intro s wait e t hn _ hfill
    obtain ⟨j, hj, hl, hr, he⟩ := fill_spec hfill
    refine ⟨j, hl, .unmet hj ?_ (.failed (he e rfl))⟩
    rw [(Consumes.nil_iff.1 hj).2, hr.resolve_left nofun, List.append_nil, hn]
  case ended =>
    intro s wait t hn _ hfill
    obtain ⟨j, hj, hl, hr, -⟩ := fill_spec hfill
    refine ⟨j, hl, .unmet hj ?_ .ended⟩
    rw [(Consumes.nil_iff.1 hj).2, hr.resolve_left nofun, List.append_nil, hn]
  case next =>
    rintro s wait f t r _ _ hfill _ ⟨k, hk, hx⟩
    obtain ⟨j, hj, hl, -⟩ := fill_spec hfill
    exact ⟨j ++ k, hl.append hk, hx.after hj⟩

/-- An expectation writes nothing and tells of nothing. -/
theorem expect_spec {ps : List Pattern} {timeout : Span} {s s' : Session (Recorded δ)}
    {x : Except Error Match} (h : expect ps timeout s = (x, s')) :
    ∃ j, Listens j ∧ Expects ps timeout s j s' x := by
  have hs := expectSince_spec s.now ps timeout s
  rwa [show expectSince s.now ps timeout s = (x, s') from h] at hs

theorem consumes_of_expect {ps : List Pattern} {timeout : Span} {s s' : Session (Recorded δ)}
    {x : Except Error Match} (h : expect ps timeout s = (x, s')) :
    ∃ j bytes, Listens j ∧ s.Consumes j bytes s' := by
  obtain ⟨j, hj, he⟩ := expect_spec h
  obtain ⟨bytes, hc⟩ := he.consumes
  exact ⟨j, bytes, hj, hc⟩

/-- An expectation adds nothing to what is written or told. -/
theorem Exchanges.expect {ps : List Pattern} {timeout : Span} {s t u : Session (Recorded δ)}
    {out bytes : Bytes} {news : List (Nat × Nat)} {j : Journal} {x : Except Error Match}
    (h : s.Exchanges out news j bytes t) (hx : Session.expect ps timeout t = (x, u)) :
    ∃ k bytes', s.Exchanges out news k bytes' u := by
  obtain ⟨k, bytes', hk, hc⟩ := consumes_of_expect hx
  exact ⟨_, _, h.listen hc hk⟩

end Session
end BoardBench
