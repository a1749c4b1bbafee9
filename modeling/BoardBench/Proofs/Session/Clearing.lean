import BoardBench.Proofs.Session.Uses
import BoardBench.Proofs.Sim.Timing
import Mathlib

/-!
# What was stale is forgotten

Clearing a session drops what it has buffered, has its transport drop what that has queued, and then
drains it. Of two sessions that differ in nothing else (`SameButStale`) it makes sessions that no uses
tell apart, and it takes no longer than the drain may last (`clearBuffer_forgets`). The drain reads from
two devices that may go on talking, but what they say from then on is the same.
-/

namespace BoardBench

variable {δ ε : Type} [Bench δ] [Transport δ] [Bench ε] [Transport ε]

/-- No calls tell the two transports apart. -/
def Transport.Indistinct (d : δ) (e : ε) : Prop := ∃ D, Transport.Lockstep D ∧ D d e

/-- Whatever the two transports hold queued, there is no difference when they have dropped it. -/
structure Transport.SameOnceCleared (d : δ) (e : ε) : Prop where
  answer : (Transport.clear e).1 = (Transport.clear d).1
  left : (Transport.clear d).1 = .ok () →
    Transport.Indistinct (Transport.clear d).2 (Transport.clear e).2

namespace Session

/-- The sessions differ in what they have buffered and what their transports hold queued. -/
structure SameButStale (s : Session δ) (t : Session ε) : Prop where
  device : Transport.SameOnceCleared s.device t.device
  log : t.log = s.log
  closed : t.closed = s.closed

omit [Bench ε] [Transport ε] in
/-- A session that was drained has nothing buffered. -/
theorem drain_buffer {s s' : Session δ} (h : drain s = (.ok (), s')) : s'.buffer = [] := by
  obtain ⟨_, t, -, hchange⟩ := Act.bind_ok_iff.1 h
  cases hchange
  rfl

omit [Bench ε] [Transport ε] in
theorem clearBuffer_buffer {s : Session δ} (h : (clearBuffer s).1 = .ok ()) :
    (clearBuffer s).2.buffer = [] := by
  rcases hclear : Transport.clear s.device with ⟨e | ⟨⟩, d⟩
  · rw [clearBuffer_of_not_clear hclear] at h
    cases h
  · rw [clearBuffer_of_clear hclear] at h ⊢
    exact drain_buffer (Prod.ext h rfl)

/-- What was stale makes no difference to the drain. -/
theorem SameButStale.clearBuffer {s : Session δ} {t : Session ε} (h : SameButStale s t) :
    (clearBuffer t).1 = (clearBuffer s).1 ∧ ((clearBuffer s).1 = .ok () →
      ∃ D, Transport.Lockstep D ∧ Alike D (clearBuffer s).2 (clearBuffer t).2) := by
  obtain ⟨⟨hanswer, hleft⟩, hlog, hclosed⟩ := h
  rcases hs : Transport.clear s.device with ⟨e | ⟨⟩, d⟩ <;>
    rcases ht : Transport.clear t.device with ⟨e' | ⟨⟩, d'⟩ <;>
    rw [hs, ht] at hanswer hleft <;> cases hanswer
  · rw [clearBuffer_of_not_clear hs, clearBuffer_of_not_clear ht]
    exact ⟨rfl, nofun⟩
  · rw [clearBuffer_of_clear hs, clearBuffer_of_clear ht]
    obtain ⟨D, hD, hdd⟩ := hleft rfl
    obtain ⟨hval, hrel⟩ := (alike_readAlike hD.toInStep).drain { s with device := d, buffer := [] }
      { t with device := d', buffer := [] } ⟨hdd, rfl, hlog, hclosed⟩
    exact ⟨hval, fun _ => ⟨D, hD, hrel⟩⟩

/-- Sessions in step come to the same whatever is done with them. -/
theorem Alike.indistinct {D : δ → ε → Prop} (hD : Transport.Lockstep D) {s : Session δ}
    {t : Session ε} (h : Alike D s t) (uses : List Use) :
    let a := Use.performAll uses s.recorded
    let b := Use.performAll uses t.recorded
    b.1 = a.1 ∧ b.2.buffer = a.2.buffer ∧ b.2.now = a.2.now ∧ b.2.log = a.2.log ∧
      b.2.device.journal = a.2.device.journal := by
  obtain ⟨hvals, hrel⟩ := Use.performAll_relates hD.journaled uses
    (s := s.recorded) (t := t.recorded) ⟨⟨h.device, rfl⟩, h.buffer, h.log, h.closed⟩
  exact ⟨hvals, hrel.buffer, now_eq hD.journaled.toInStep hrel, hrel.log, hrel.device.journal⟩

/-- Clearing comes to the same in two sessions that differ in what is stale, and if it succeeds it
leaves nothing buffered, and whatever is done from then on comes to the same, with the same buffer, the
same clock and the same calls on the transport. The drain ends after some reads, and a read after its
time at the latest if reads end in time. -/
theorem clearBuffer_forgets {s : Session δ} {t : Session ε} (h : SameButStale s t) :
    (clearBuffer t).1 = (clearBuffer s).1 ∧
    ((clearBuffer s).1 = .ok () →
      (clearBuffer s).2.buffer = [] ∧ (clearBuffer t).2.buffer = [] ∧
      ∀ uses : List Use,
        let a := Use.performAll uses (clearBuffer s).2.recorded
        let b := Use.performAll uses (clearBuffer t).2.recorded
        Use.performAll uses (clearBuffer s).2 = (a.1, a.2.plain) ∧
          Use.performAll uses (clearBuffer t).2 = (b.1, b.2.plain) ∧
          b.1 = a.1 ∧ b.2.buffer = a.2.buffer ∧ b.2.now = a.2.now ∧ b.2.log = a.2.log ∧
          b.2.device.journal = a.2.device.journal) ∧
    ∀ d, Transport.clear s.device = (.ok (), d) →
      ∃ n x u, Drains (Bench.now d) n { s with device := d, buffer := [] } (x, u) ∧
        (clearBuffer s).1 = x ∧ (clearBuffer s).2.now = u.now ∧
        ∀ P : δ → Prop, Transport.Punctual P → P d →
          u.now ≤ Bench.now d + drainLimit.nanos + drainWait.nanos := by
  obtain ⟨hval, hrel⟩ := h.clearBuffer
  refine ⟨hval, fun hok => ⟨clearBuffer_buffer hok, clearBuffer_buffer (hval.trans hok), ?_⟩, ?_⟩
  · intro uses
    obtain ⟨D, hD, halike⟩ := hrel hok
    exact ⟨Use.performAll_plain uses (clearBuffer s).2.recorded,
      Use.performAll_plain uses (clearBuffer t).2.recorded, halike.indistinct hD uses⟩
  · intro d hclear
    obtain ⟨n, hn⟩ := drainSince_drains (Bench.now d) { s with device := d, buffer := [] }
    generalize drainSince (Bench.now d) { s with device := d, buffer := [] } = r at hn
    obtain ⟨x, u⟩ := r
    obtain ⟨buffer, hdrain⟩ := drain_of_drains (s := { s with device := d, buffer := [] }) hn
    refine ⟨n, x, u, hn, ?_, ?_, fun P hP hd => hn.inTime hP hd ?_⟩
    · rw [clearBuffer_of_clear hclear, hdrain]
    · rw [clearBuffer_of_clear hclear, hdrain]
      rfl
    · exact Nat.le_trans (Nat.le_add_right _ _) (Nat.le_add_right _ _)

/-! ## Simulated boards -/

theorem board_clear_incoming (b : Sim.Board) (incoming : List Sim.Item) :
    { b with incoming }.clear.1 = b.clear.1 ∧
      (b.clear.1 = .ok () → { b with incoming }.clear.2 = b.clear.2) := by
  unfold Sim.Board.clear
  cases b.clearFault with
  | none => exact ⟨rfl, fun _ => rfl⟩
  | some kind => exact ⟨rfl, nofun⟩

theorem clear_board {w : Sim.World} (hl : w.link = .board) :
    Transport.clear w = (w.board.clear.1, { w with board := w.board.clear.2 }) := by
  show Sim.World.transportClear w = _
  unfold Sim.World.transportClear
  rw [hl]

/-- What a simulated board holds is dropped when it is cleared. -/
theorem sameButStale_board {w : Sim.World} (hl : w.link = .board) (incoming : List Sim.Item)
    (buffer stale : Bytes) : SameButStale { ofDevice w with buffer }
      { ofDevice { w with board := { w.board with incoming } } with buffer := stale } := by
  obtain ⟨hanswer, hleft⟩ := board_clear_incoming w.board incoming
  have hw := clear_board hl
  have hw' := clear_board (w := { w with board := { w.board with incoming } }) hl
  refine ⟨⟨?_, fun hok => ⟨Eq, Transport.lockstep_eq, ?_⟩⟩, rfl, rfl⟩
  · exact (congrArg Prod.fst hw').trans (hanswer.trans (congrArg Prod.fst hw).symm)
  · have hok' : w.board.clear.1 = .ok () := (congrArg Prod.fst hw).symm.trans hok
    refine (congrArg Prod.snd hw).trans (Eq.trans ?_ (congrArg Prod.snd hw').symm)
    show ({ w with board := w.board.clear.2 } : Sim.World) = _
    rw [← hleft hok']

/-- A board that goes on talking for a while. -/
def chattyBench : Sim.World where
  board := { delayed := [(5000000, .data [0x6F, 0x6C, 0x64]), (900000000, .data [0x6E, 0x65, 0x77])] }

theorem clearBuffer_forgets_chatty :
    let s := ofDevice chattyBench
    let t : Session Sim.World := { ofDevice { chattyBench with
      board := { chattyBench.board with incoming := [.data [0x6E, 0x65], .ended] } } with
      buffer := [0x6E, 0x65, 0x77] }
    let uses := [Use.call (.expect [.literal [0x6E, 0x65, 0x77]] (.ofMillis 950))]
    SameButStale s t ∧ (clearBuffer s).1 = .ok () ∧
      (Use.performAll uses (clearBuffer t).2.recorded).1 =
        (Use.performAll uses (clearBuffer s).2.recorded).1 ∧
      (clearBuffer s).2.now ≤ Bench.now chattyBench + drainLimit.nanos + drainWait.nanos := by
  intro s t uses
  have h : SameButStale s t := sameButStale_board rfl _ _ _
  have hok : (clearBuffer s).1 = .ok () := by cbv
  obtain ⟨-, hsame, hdrains⟩ := clearBuffer_forgets h
  obtain ⟨_, _, hsame⟩ := hsame hok
  obtain ⟨n, x, u, -, -, hnow, htime⟩ := hdrains _ (clear_board (w := chattyBench) rfl)
  refine ⟨h, hok, (hsame uses).2.2.1, ?_⟩
  rw [hnow]
  exact htime _ Sim.World.punctual rfl

end Session
end BoardBench
