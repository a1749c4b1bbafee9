import BoardBench.Proofs.Session.InStep
import BoardBench.Proofs.Session.Timing

/-!
# Draining

`Drains start n s r` says that `n` reads, one after the other, drain the session `s` and come to `r`.
There always are such reads (`drainSince_drains`), since each of them that brings bytes takes time or
uses up a part of what the transport holds ready. The last is begun before the time is over, and so it
is over a read later on a device whose reads end in time (`Drains.inTime`).
-/

namespace BoardBench.Session

variable {δ ε : Type} [Bench δ] [Transport δ] [Bench ε] [Transport ε] {start n : Nat}

/-- So many reads, each of which brought bytes but for the last, or for none if the time is over. -/
inductive Drains (start : Nat) : Nat → Session δ → Except Error Unit × Session δ → Prop
  | late {s : Session δ} : drainLimit.nanos ≤ s.now - start → Drains start 0 s (.ok (), s)
  | failed {s t : Session δ} {e : Error} : s.now - start < drainLimit.nanos →
      fill drainWait s = (.error e, t) → Drains start 1 s (.error e, t)
  | quiet {s t : Session δ} {f : Fill} : s.now - start < drainLimit.nanos →
      fill drainWait s = (.ok f, t) → f ≠ .data → Drains start 1 s (.ok (), t)
  | more {s t : Session δ} {n : Nat} {r : Except Error Unit × Session δ} :
      s.now - start < drainLimit.nanos → fill drainWait s = (.ok .data, t) → Drains start n t r →
      Drains start (n + 1) s r

variable {s : Session δ} {r : Except Error Unit × Session δ}

theorem drainSince_drains (start : Nat) (s : Session δ) :
    ∃ n, Drains start n s (drainSince start s) := by
  fun_induction drainSince start s with
  | case1 s hle => exact ⟨0, .late hle⟩
  | case2 s hlt e t hfill => exact ⟨1, .failed (Nat.lt_of_not_le hlt) hfill⟩
  | case3 s hlt t hfill ih =>
    obtain ⟨n, hn⟩ := ih
    exact ⟨n + 1, .more (Nat.lt_of_not_le hlt) hfill hn⟩
  | case4 s hlt t hfill => exact ⟨1, .quiet (Nat.lt_of_not_le hlt) hfill nofun⟩
  | case5 s hlt t hfill => exact ⟨1, .quiet (Nat.lt_of_not_le hlt) hfill nofun⟩

theorem Drains.eq (h : Drains start n s r) : drainSince start s = r := by
  induction h with
  | late hle => rw [drainSince, if_pos hle]
  | failed hlt hfill =>
    rw [drainSince, if_neg (Nat.not_le_of_lt hlt)]
    split <;> rename_i heq <;> cases hfill.symm.trans heq
    rfl
  | quiet hlt hfill hne =>
    rw [drainSince, if_neg (Nat.not_le_of_lt hlt)]
    split <;> rename_i heq <;> cases hfill.symm.trans heq
    · exact absurd rfl hne
    · rfl
    · rfl
  | more hlt hfill _ ih =>
    rw [drainSince, if_neg (Nat.not_le_of_lt hlt)]
    split <;> rename_i heq <;> cases hfill.symm.trans heq
    exact ih

theorem Drains.inTime {P : δ → Prop} (hP : Transport.Punctual P) (h : Drains start n s r)
    (hs : P s.device) (hnow : s.now ≤ start + drainLimit.nanos + drainWait.nanos) :
    r.2.now ≤ start + drainLimit.nanos + drainWait.nanos := by
  -- a read is begun in time, and it ends when it has waited for its own time
  have hround {s t : Session δ} {x : Except Error Fill} (hs : P s.device)
      (hlt : s.now - start < drainLimit.nanos) (hfill : fill drainWait s = (x, t)) :
      P t.device ∧ t.now ≤ start + drainLimit.nanos + drainWait.nanos := by
    obtain ⟨ht, hle⟩ := fill_inTime hP hs hfill
    have hwait : max drainWait.nanos shortestWait.nanos = drainWait.nanos := by decide
    exact ⟨ht, by omega⟩
  induction h with
  | late => exact hnow
  | failed hlt hfill => exact (hround hs hlt hfill).2
  | quiet hlt hfill _ => exact (hround hs hlt hfill).2
  | more hlt hfill _ ih =>
    obtain ⟨ht, hle⟩ := hround hs hlt hfill
    exact ih ht hle

/-- What drains a session drains one of which reads come to the same. -/
theorem Drains.relates {R : Session δ → Session ε → Prop} (hR : ReadAlike R) (h : Drains start n s r)
    {t : Session ε} (hst : R s t) : ∃ y t', Drains start n t (y, t') ∧ y = r.1 ∧ R r.2 t' := by
  induction h generalizing t with
  | late hle => exact ⟨_, t, .late (hR.now _ t hst ▸ hle), rfl, hst⟩
  | failed hlt hfill =>
    obtain ⟨t', hst', hfill'⟩ := hR.fill_eq hst hfill
    exact ⟨_, t', .failed (hR.now _ t hst ▸ hlt) hfill', rfl, hst'⟩
  | quiet hlt hfill hne =>
    obtain ⟨t', hst', hfill'⟩ := hR.fill_eq hst hfill
    exact ⟨_, t', .quiet (hR.now _ t hst ▸ hlt) hfill' hne, rfl, hst'⟩
  | more hlt hfill _ ih =>
    obtain ⟨u, hsu, hfill'⟩ := hR.fill_eq hst hfill
    obtain ⟨y, t', hn, hval, hst'⟩ := ih hsu
    exact ⟨y, t', .more (hR.now _ t hst ▸ hlt) hfill' hn, hval, hst'⟩

theorem ReadAlike.drainSince {R : Session δ → Session ε → Prop} (hR : ReadAlike R) (start : Nat) :
    Act.Relates R (Session.drainSince start) (Session.drainSince start) := by
  intro s t hst
  obtain ⟨n, hn⟩ := drainSince_drains start s
  obtain ⟨y, t', ht, hval, hrel⟩ := hn.relates hR hst
  rw [ht.eq]
  exact ⟨hval, hrel⟩

end BoardBench.Session
