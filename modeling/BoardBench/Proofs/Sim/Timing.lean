import BoardBench.Proofs.Session.Timing
import BoardBench.Proofs.Sim.Delivery

/-!
# Reads of a simulated board end in time

Whatever a simulated board prints, and whether it is open or not, a read of it is over when the
timeout is (`Board.readUntil_inTime`). So the bench that reaches it is punctual (`World.punctual`).
-/

namespace BoardBench.Sim

theorem Board.readUntil_inTime (n deadline fuel now : Nat) (b : Board) :
    (b.readUntil n deadline fuel now).2.1 ≤ max now deadline := by
  fun_induction Board.readUntil n deadline fuel now b with
  | case1 => exact Nat.le_refl _
  | case2 | case3 | case4 | case5 | case6 => exact Nat.le_max_left _ _
  | case7 | case9 => exact Nat.le_max_right _ _
  | case8 fuel now b hopen settled hnone left due item rest hdelayed hle ih =>
    -- the item that is waited for comes before the deadline
    refine Nat.le_trans ih ?_
    omega

namespace World

/-- A nanosecond may be added. -/
theorem now_paid_le (size : World → Nat) (before after : World) :
    (paid size before after).now ≤ max after.now (before.now + 1) := by
  unfold paid
  split
  · exact Nat.le_max_left _ _
  · simp only [now, atTime]
    omega

theorem link_paid (size : World → Nat) (before after : World) :
    (paid size before after).link = after.link := by
  unfold paid
  split <;> rfl

theorem linkRead_inTime {w : World} (hl : w.link = .board) (n : Nat) :
    (linkRead n w).2.link = .board ∧ (linkRead n w).2.now ≤ w.now + w.linkTimeout.nanos := by
  rcases hread : w.board.read n w.now with ⟨r, time, b⟩
  have htime : time ≤ max w.now (w.now + w.board.timeout.nanos) := by
    have := Board.readUntil_inTime n (w.now + w.board.timeout.nanos) (w.board.delayed.length + 2) w.now w.board
    rwa [show w.board.readUntil n _ _ w.now = (r, time, b) from hread] at this
  rw [linkRead_board hl hread]
  refine ⟨hl, ?_⟩
  simp only [linkTimeout, hl, now] at htime ⊢
  omega

/-- The reads of a bench that reaches the board itself end in time. -/
theorem punctual : Transport.Punctual fun w : World => w.link = .board := by
  refine ⟨fun w hl t => ?_, fun w hl hpos n => ?_⟩
  · rw [setTimeout_board hl]
    exact ⟨hl, Nat.le_refl _⟩
  · obtain ⟨hlink, htime⟩ := linkRead_inTime hl n
    have hpaid : (paid linkBacklog w (linkRead n w).2).link = .board ∧
        (paid linkBacklog w (linkRead n w).2).now ≤ w.now + w.linkTimeout.nanos := by
      refine ⟨(link_paid _ _ _).trans hlink, Nat.le_trans (now_paid_le _ _ _) ?_⟩
      exact Nat.max_le.2 ⟨htime, Nat.add_le_add_left hpos _⟩
    show (transportRead n w).2.link = .board ∧ (transportRead n w).2.now ≤ w.now + w.linkTimeout.nanos
    unfold transportRead
    split
    · exact ⟨hl, Nat.le_add_right _ _⟩
    · split <;> rename_i hread <;> rw [hread] at hlink htime hpaid
      · exact ⟨hlink, htime⟩
      · exact hpaid
      · split
        · exact hpaid
        · exact ⟨hlink, htime⟩

end World
end BoardBench.Sim
