import BoardBench.Proofs.Session.Conservation
import BoardBench.Proofs.Session.Draining

/-!
# All that can be done with a session

A use of a session is a call on it, or one of the three acts on its transport: to drop what is stale, to
open it again, to close it. Two transports are in lockstep if they answer those acts alike too
(`Transport.Lockstep`), and then no uses of the sessions on them tell them apart
(`Use.performAll_relates`). A journal does not make a difference (`Use.performAll_plain`), and the
journals of transports in lockstep are the same (`Lockstep.journaled`).
-/

namespace BoardBench

variable {δ ε : Type} [Bench δ] [Transport δ] [Bench ε] [Transport ε]

/-- Besides, related transports are cleared, opened again and closed alike. -/
structure Transport.Lockstep (D : δ → ε → Prop) : Prop extends Transport.InStep D where
  clear : Act.Relates D Transport.clear Transport.clear
  reopen : Act.Relates D Transport.reopen Transport.reopen
  close : Act.Relates D Transport.close Transport.close

open Transport

theorem Transport.lockstep_eq : Lockstep (Eq : δ → δ → Prop) where
  name _ _ h := h ▸ rfl
  now _ _ h := h ▸ rfl
  note _ _ _ _ h := h ▸ rfl
  setTimeout _ _ _ h := h ▸ ⟨rfl, rfl⟩
  read _ _ _ h := h ▸ ⟨rfl, rfl⟩
  write _ _ _ h := h ▸ ⟨rfl, rfl⟩
  flush _ _ h := h ▸ ⟨rfl, rfl⟩
  clear _ _ h := h ▸ ⟨rfl, rfl⟩
  reopen _ _ h := h ▸ ⟨rfl, rfl⟩
  close _ _ h := h ▸ ⟨rfl, rfl⟩

namespace Recorded

theorem lockstep : Lockstep fun (r : Recorded δ) (d : δ) => d = r.device where
  toInStep := inStep
  clear r d h := by subst h; exact ⟨rfl, rfl⟩
  reopen r d h := by subst h; exact ⟨rfl, rfl⟩
  close r d h := by subst h; exact ⟨rfl, rfl⟩

/-- The devices are related, and the same calls were made on both. -/
structure SameCalls (D : δ → ε → Prop) (r : Recorded δ) (r' : Recorded ε) : Prop where
  device : D r.device r'.device
  journal : r'.journal = r.journal

variable {D : δ → ε → Prop} {α : Type}

omit [Bench δ] [Transport δ] [Bench ε] [Transport ε] in
theorem SameCalls.call {entry : α → Call} {x : δ → α × δ} {y : ε → α × ε} {r : Recorded δ}
    {r' : Recorded ε} (h : SameCalls D r r')
    (hxy : (y r'.device).1 = (x r.device).1 ∧ D (x r.device).2 (y r'.device).2) :
    (Recorded.call entry y r').1 = (Recorded.call entry x r).1 ∧
      SameCalls D (Recorded.call entry x r).2 (Recorded.call entry y r').2 := by
  refine ⟨hxy.1, hxy.2, ?_⟩
  show r'.journal ++ [entry (y r'.device).1] = r.journal ++ [entry (x r.device).1]
  rw [h.journal, hxy.1]

end Recorded

open Recorded in
/-- On transports in lockstep the same calls come to the same. -/
theorem Transport.Lockstep.journaled {D : δ → ε → Prop} (hD : Lockstep D) :
    Lockstep (SameCalls D) where
  name _ _ h := hD.name _ _ h.device
  now _ _ h := hD.now _ _ h.device
  note level text _ _ h := ⟨hD.note level text _ _ h.device, h.journal⟩
  setTimeout t _ _ h := h.call (hD.setTimeout t _ _ h.device)
  read n _ _ h := h.call (hD.read n _ _ h.device)
  write bytes _ _ h := h.call (hD.write bytes _ _ h.device)
  flush _ _ h := h.call (hD.flush _ _ h.device)
  clear _ _ h := h.call (hD.clear _ _ h.device)
  reopen _ _ h := h.call (hD.reopen _ _ h.device)
  close _ _ h := h.call (hD.close _ _ h.device)

namespace Session

variable {D : δ → ε → Prop}

/-! ## One use -/

/-- What `clearBuffer` does when the transport was cleared. -/
def drain : Act (Session δ) Unit := do
  fun s => drainSince s.now s
  Act.change fun s => { s with buffer := [] }

theorem clearBuffer_eq : clearBuffer = (do
    Act.change fun s : Session δ => { s with buffer := [] }
    onDevice Transport.clear
    drain) := rfl

omit [Bench ε] [Transport ε] in
theorem clearBuffer_of_clear {s : Session δ} {d : δ} (h : Transport.clear s.device = (.ok (), d)) :
    clearBuffer s = drain { s with device := d, buffer := [] } := by
  rw [clearBuffer_eq, Act.change_bind]
  exact Act.bind_ok (Act.zoom_eq_iff.2 ⟨d, h, rfl⟩)

omit [Bench ε] [Transport ε] in
theorem clearBuffer_of_not_clear {s : Session δ} {d : δ} {e : Error}
    (h : Transport.clear s.device = (.error e, d)) :
    clearBuffer s = (.error e, { s with device := d, buffer := [] }) := by
  rw [clearBuffer_eq, Act.change_bind]
  exact Act.bind_error (Act.zoom_eq_iff.2 ⟨d, h, rfl⟩)

omit [Bench ε] [Transport ε] in
theorem drain_of_drains {s t : Session δ} {n : Nat} {x : Except Error Unit}
    (h : Drains s.now n s (x, t)) : ∃ buffer, drain s = (x, { t with buffer }) := by
  have hreads : (fun s => drainSince s.now s : Act (Session δ) Unit) s = (x, t) := h.eq
  cases x with
  | error e => exact ⟨t.buffer, Act.bind_error hreads⟩
  | ok u => exact ⟨[], Act.bind_ok hreads⟩

theorem ReadAlike.drain {R : Session δ → Session ε → Prop} (hR : ReadAlike R) :
    Act.Relates R Session.drain Session.drain := by
  have round : Act.Relates R (fun s : Session δ => Session.drainSince s.now s)
      (fun s : Session ε => Session.drainSince s.now s) := by
    intro s t hst
    dsimp only
    rw [hR.now s t hst]
    exact hR.drainSince s.now s t hst
  exact round.bind fun _ => .change fun s t hst => hR.setBuffer s t hst []

theorem clearBuffer_relates (hD : Lockstep D) : Act.Relates (Alike D) clearBuffer clearBuffer := by
  rw [clearBuffer_eq, clearBuffer_eq]
  refine (Act.Relates.change fun s t hst => ⟨hst.device, rfl, hst.log, hst.closed⟩).bind fun _ => ?_
  exact (onDevice_relates hD.clear).bind fun _ => (alike_readAlike hD.toInStep).drain

theorem reopen_relates (hD : Lockstep D) : Act.Relates (Alike D) reopen reopen := by
  refine (Act.Relates.change fun s t hst => ⟨hst.device, rfl, hst.log, hst.closed⟩).bind fun _ => ?_
  refine (onDevice_relates hD.reopen).bind fun _ => ?_
  exact .change fun s t hst => ⟨hst.device, hst.buffer, hst.log, rfl⟩

theorem close_relates (hD : Lockstep D) : Act.Relates (Alike D) close close := by
  intro s t hst
  unfold close
  rw [hst.closed]
  split
  · exact ⟨rfl, hst⟩
  · exact onDevice_relates hD.close _ _ (flushLog_alike ⟨hst.device, hst.buffer, hst.log, rfl⟩)

/-- Something done with a session. -/
inductive Use where
  | call (op : Op)
  | clearBuffer
  | reopen
  | close

namespace Use

def perform : Use → Act (Session δ) Yield
  | call op => op.perform
  | clearBuffer => (fun _ => .nothing) <$> Session.clearBuffer
  | reopen => (fun _ => .nothing) <$> Session.reopen
  | close => (fun _ => .nothing) <$> Session.close

/-- Makes the uses in order, each whatever came of those before. -/
def performAll : List Use → Session δ → List (Except Error Yield) × Session δ
  | [], s => ([], s)
  | use :: uses, s =>
    let (r, t) := use.perform s
    let (rs, u) := performAll uses t
    (r :: rs, u)

theorem performAll_cons (use : Use) (uses : List Use) (s : Session δ) :
    performAll (use :: uses) s = ((use.perform s).1 :: (performAll uses (use.perform s).2).1,
      (performAll uses (use.perform s).2).2) := rfl

theorem perform_relates (hD : Lockstep D) (use : Use) :
    Act.Relates (Alike D) use.perform use.perform := by
  cases use with
  | call op => exact op.perform_relates hD.toInStep
  | clearBuffer => exact (clearBuffer_relates hD).map _
  | reopen => exact (reopen_relates hD).map _
  | close => exact (close_relates hD).map _

/-! ## A run -/

theorem performAll_relates (hD : Lockstep D) (uses : List Use) {s : Session δ} {t : Session ε}
    (hst : Alike D s t) : (performAll uses t).1 = (performAll uses s).1 ∧
      Alike D (performAll uses s).2 (performAll uses t).2 := by
  induction uses generalizing s t with
  | nil => exact ⟨rfl, hst⟩
  | cons use uses ih =>
    obtain ⟨hval, hrel⟩ := perform_relates hD use s t hst
    obtain ⟨hvals, hrels⟩ := ih hrel
    rw [performAll_cons, performAll_cons, hval, hvals]
    exact ⟨rfl, hrels⟩

theorem performAll_plain (uses : List Use) (s : Session (Recorded δ)) :
    performAll uses s.plain = ((performAll uses s).1, (performAll uses s).2.plain) := by
  obtain ⟨hval, hrel⟩ := performAll_relates Recorded.lockstep uses (alike_recorded_iff (s := s).2 rfl)
  exact Prod.ext hval (alike_recorded_iff.1 hrel)

end Use
end Session
end BoardBench
