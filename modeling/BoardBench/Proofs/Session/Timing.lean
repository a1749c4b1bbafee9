import BoardBench.Proofs.Session.Recording

/-!
# How long an expectation takes

A read of a session waits for at least a millisecond. So on a device whose reads end when their
timeout is over an expectation ends by then or a millisecond later (`now_expectSince_le`).
-/

namespace BoardBench

variable {δ : Type} [Bench δ] [Transport δ]

/-- To set the timeout takes no time, and a read ends when its timeout is over, on all devices of a kind
that these calls do not leave. -/
structure Transport.Punctual (P : δ → Prop) : Prop where
  setTimeout : ∀ d, P d → ∀ t, P (Transport.setTimeout t d).2 ∧
    Bench.now (Transport.setTimeout t d).2 ≤ Bench.now d
  read : ∀ d, P d → 0 < (Transport.timeout d).nanos → ∀ n, P (Transport.read n d).2 ∧
    Bench.now (Transport.read n d).2 ≤ Bench.now d + (Transport.timeout d).nanos

theorem Transport.Punctual.recorded {P : δ → Prop} (h : Punctual P) :
    Punctual fun r : Recorded δ => P r.device :=
  ⟨fun r => h.setTimeout r.device, fun r => h.read r.device⟩

namespace Session

variable {ps : List Pattern} {timeout : Span} {start : Nat}

theorem fill_inTime {P : δ → Prop} (hP : Transport.Punctual P) {wait : Span} {s s' : Session δ}
    {x : Except Error Fill} (hs : P s.device) (h : fill wait s = (x, s')) :
    P s'.device ∧ s'.now ≤ s.now + max wait.nanos shortestWait.nanos := by
  obtain ⟨hset, hnow⟩ := hP.setTimeout s.device hs ⟨max wait.nanos shortestWait.nanos⟩
  unfold fill at h
  split at h
  · rename_i e d heq
    rw [heq] at hset hnow
    cases h
    exact ⟨hset, Nat.le_trans hnow (Nat.le_add_right _ _)⟩
  · rename_i u d heq
    rw [heq] at hset hnow
    have htimeout := (Transport.setTimeout_ok _ _ _ heq).1
    have hpos : 0 < (Transport.timeout d).nanos := by
      rw [htimeout]
      exact Nat.lt_of_lt_of_le (by decide) (Nat.le_max_right _ _)
    obtain ⟨hread, hend⟩ := hP.read d hset hpos readChunk
    have hlate : Bench.now (Transport.read readChunk d).2 ≤
        s.now + max wait.nanos shortestWait.nanos := by
      rw [htimeout] at hend
      exact Nat.le_trans hend (Nat.add_le_add_right hnow _)
    split at h
    · rename_i d' heq'
      rw [heq'] at hread hlate
      cases h
      exact ⟨hread, hlate⟩
    · rename_i bytes d' _ heq'
      rw [heq'] at hread hlate
      cases h
      exact ⟨hread, hlate⟩
    · rename_i f d' heq'
      rw [heq'] at hread hlate
      split at h <;> cases h <;> exact ⟨hread, hlate⟩

/-- Each read is begun in time, and ends with the time that is left or a millisecond later. -/
theorem now_expectSince_le {P : δ → Prop} (hP : Transport.Punctual P) {s : Session δ}
    (hs : P s.device) (hnow : s.now ≤ start + timeout.nanos + shortestWait.nanos) :
    (expectSince start ps timeout s).2.now ≤ start + timeout.nanos + shortestWait.nanos := by
  have hround {s t : Session δ} {x : Except Error Fill} (hs : P s.device)
      (hlt : ¬ timeout.nanos ≤ s.now - start)
      (hfill : fill ⟨min (timeout.nanos - (s.now - start)) pollInterval.nanos⟩ s = (x, t)) :
      P t.device ∧ t.now ≤ start + timeout.nanos + shortestWait.nanos := by
    obtain ⟨ht, hle⟩ := fill_inTime hP hs hfill
    refine ⟨ht, Nat.le_trans hle ?_⟩
    have hwait : max (min (timeout.nanos - (s.now - start)) pollInterval.nanos) shortestWait.nanos ≤
        timeout.nanos - (s.now - start) + shortestWait.nanos := by omega
    have hbegun : s.now < start + timeout.nanos := by omega
    show s.now + max (min (timeout.nanos - (s.now - start)) pollInterval.nanos) shortestWait.nanos ≤ _
    omega
  fun_induction expectSince start ps timeout s with
  | case1 s index found hf => exact hnow
  | case2 s hn elapsed hle => exact hnow
  | case3 s hn elapsed hle e t hfill => exact (hround hs hle hfill).2
  | case4 s hn elapsed hle t hfill => exact (hround hs hle hfill).2
  | case5 s hn elapsed hle t hfill ih =>
    obtain ⟨ht, hnow'⟩ := hround hs hle hfill
    exact ih ht hnow'
  | case6 s hn elapsed hle t hfill ih =>
    obtain ⟨ht, hnow'⟩ := hround hs hle hfill
    exact ih ht hnow'

end Session
end BoardBench
