import BoardBench.Proofs.Session.Ending
import BoardBench.Sim.World

/-!
# A simulated board delivers

What has arrived on a simulated board is given without delay, in reads that each take at most one of
the pieces in which it arrived (`gives`). Then the board is silent, or closes the stream.
-/

namespace BoardBench.Sim

namespace Board

/-- The pieces are counted with one for each, as in `backlog`. -/
def weight (pieces : List Bytes) : Nat := pieces.foldr (fun p n => p.length + 1 + n) 0

theorem skipEmpty_of_ne_nil {pieces : List Bytes} (h : pieces.flatten ≠ []) :
    ∃ p rest, skipEmpty (pieces.map .data) = .data p :: rest.map .data ∧ p ≠ [] ∧
      pieces.flatten = p ++ rest.flatten ∧ weight (p :: rest) ≤ weight pieces := by
  induction pieces with
  | nil => exact absurd rfl h
  | cons p pieces ih =>
    cases p with
    | nil =>
      obtain ⟨p, rest, hs, hp, hf, hw⟩ := ih h
      refine ⟨p, rest, hs, hp, hf, Nat.le_trans hw ?_⟩
      simp [weight]
    | cons b bs => exact ⟨b :: bs, pieces, rfl, nofun, rfl, Nat.le_refl _⟩

theorem skipEmpty_of_nil {pieces : List Bytes} (h : pieces.flatten = []) :
    skipEmpty (pieces.map .data) = [] := by
  induction pieces with
  | nil => rfl
  | cons p pieces ih =>
    obtain ⟨rfl, h⟩ := List.append_eq_nil_iff.1 h
    exact ih h

/-- The board is open and holds the pieces, and nothing else is on its way. -/
structure Holds (pieces : List Bytes) (b : Board) : Prop where
  isOpen : b.closed = false
  incoming : b.incoming = pieces.map .data
  delayed : b.delayed = []

theorem Holds.settle {pieces : List Bytes} {b : Board} (h : Holds pieces b) (now : Nat) :
    b.settle now = b := by
  rcases b with ⟨_, _, delayed⟩
  obtain rfl : delayed = [] := h.delayed
  simp [Board.settle]

theorem Holds.backlog {pieces : List Bytes} {b : Board} (h : Holds pieces b) :
    b.backlog = weight pieces := by
  simp [Board.backlog, weight, h.delayed, h.incoming, List.foldr_map]

/-- Something is given at once, and there is less to give then. -/
theorem Holds.read {pieces : List Bytes} {b : Board} (h : Holds pieces b) (hne : pieces.flatten ≠ [])
    {n : Nat} (hn : 0 < n) (now : Nat) :
    ∃ (got : Bytes) (left : List Bytes) (tally : Tally),
      b.read n now = (.ok got, now, { b with incoming := left.map .data, tally }) ∧ got ≠ [] ∧
        pieces.flatten = got ++ left.flatten ∧ weight left < weight pieces := by
  obtain ⟨p, rest, hs, hp, hf, hw⟩ := skipEmpty_of_ne_nil hne
  have hpos := List.length_pos_iff.2 hp
  have hgot : p.take n ≠ [] := by
    intro h0
    have := congrArg List.length h0
    simp only [List.length_take, List.length_nil] at this
    omega
  -- what is left of the piece, if it is longer than what was asked for
  let left := if p.length ≤ n then rest else p.drop n :: rest
  have hleft : p.take n ++ left.flatten = p ++ rest.flatten := by
    unfold left
    split
    · rw [List.take_of_length_le ‹_›]
    · rw [List.flatten_cons, ← List.append_assoc, List.take_append_drop]
  have hweight : weight left < weight (p :: rest) := by
    unfold left
    split
    · simp [weight]
    · simp only [weight, List.foldr_cons, List.length_drop]
      omega
  refine ⟨p.take n, left, { b.tally with consumed := b.tally.consumed + (p.take n).length }, ?_, hgot,
    by rw [hf, hleft], by omega⟩
  rw [Board.read, Board.readUntil, h.settle, if_neg (by rw [h.isOpen]; nofun)]
  simp only [h.incoming, hs]
  unfold left
  split <;> rfl

/-- A board with nothing to give stays as it is. -/
theorem Holds.read_nil {pieces : List Bytes} {b : Board} (h : Holds pieces b)
    (hnil : pieces.flatten = []) (n now : Nat) :
    b.read n now = if b.endsWhenIdle then (.ok [], now, { b with incoming := [] })
      else (.error ⟨.timedOut, "no data"⟩, now + b.timeout.nanos, { b with incoming := [] }) := by
  rw [Board.read, Board.readUntil, h.settle, if_neg (by rw [h.isOpen]; nofun)]
  simp only [h.incoming, h.delayed, skipEmpty_of_nil hnil]

end Board

namespace World

/-- The bench reaches the board itself, which holds the pieces. -/
structure Holds (pieces : List Bytes) (w : World) : Prop where
  link : w.link = .board
  running : w.aborted = false
  board : w.board.Holds pieces

theorem linkRead_board {w : World} (hl : w.link = .board) {n time : Nat}
    {r : Except Fault Bytes} {b : Board} (hr : w.board.read n w.now = (r, time, b)) :
    linkRead n w = (r, { w with board := b, skew := w.skew + (time - w.now) }) := by
  unfold linkRead
  rw [hl]
  simp only [hr]

theorem setTimeout_board {w : World} (hl : w.link = .board) (t : Span) :
    Transport.setTimeout t w = (.ok (), { w with board := { w.board with timeout := t } }) := by
  show transportSetTimeout t w = _
  unfold transportSetTimeout
  rw [hl]

theorem paid_of_less (size : World → Nat) {before after : World} (hnow : before.now = after.now)
    (hless : size after < size before) : World.paid size before after = after :=
  if_pos (.inr ⟨hnow, hless⟩)

/-- Something is given, and no time passes. -/
theorem Holds.read {pieces : List Bytes} {w : World} (h : Holds pieces w) (hne : pieces.flatten ≠ [])
    {n : Nat} (hn : 0 < n) :
    ∃ (got : Bytes) (left : List Bytes) (tally : Tally), Transport.read n w =
        (.ok got, { w with board := { w.board with incoming := left.map .data, tally } }) ∧
      got ≠ [] ∧ pieces.flatten = got ++ left.flatten := by
  obtain ⟨got, left, tally, hread, hgot, hflat, hless⟩ := h.board.read hne hn w.now
  refine ⟨got, left, tally, ?_, hgot, hflat⟩
  have hlink := linkRead_board h.link hread
  rw [Nat.sub_self, Nat.add_zero] at hlink
  show transportRead n w = _
  unfold transportRead
  rw [if_neg (by rw [h.running]; nofun), hlink]
  cases got with
  | nil => exact absurd rfl hgot
  | cons b bs =>
    have hafter : Board.Holds left { w.board with incoming := left.map .data, tally } :=
      ⟨h.board.isOpen, rfl, h.board.delayed⟩
    have hbacklog : linkBacklog { w with board := { w.board with incoming := left.map .data, tally } } <
        linkBacklog w := by
      simp only [linkBacklog, h.link]
      rw [hafter.backlog, h.board.backlog]
      exact hless
    have hnow : w.now =
        now { w with board := { w.board with incoming := left.map .data, tally } } := rfl
    dsimp only
    rw [paid_of_less linkBacklog hnow hbacklog]

/-- A board with nothing to give stays as it is. -/
theorem Holds.read_nil {pieces : List Bytes} {w : World} (h : Holds pieces w)
    (hnil : pieces.flatten = []) (n : Nat) :
    ∃ w', Transport.read n w =
        (if w.board.endsWhenIdle then .ok [] else .error ⟨.timedOut, "no data"⟩, w') ∧
      w'.link = w.link ∧ w'.aborted = w.aborted ∧ w'.board = { w.board with incoming := [] } := by
  have hread := h.board.read_nil hnil n w.now
  have hcall : Transport.read n w = transportRead n w := rfl
  rw [hcall, transportRead, if_neg (by rw [h.running]; nofun)]
  by_cases hends : w.board.endsWhenIdle = true
  · rw [if_pos hends] at hread
    rw [linkRead_board h.link hread, if_pos hends]
    exact ⟨_, rfl, rfl, rfl, rfl⟩
  · rw [if_neg hends] at hread
    rw [linkRead_board h.link hread, if_neg hends]
    dsimp only
    split
    · unfold paid
      split <;> exact ⟨_, rfl, rfl, rfl, rfl⟩
    · exact ⟨_, rfl, rfl, rfl, rfl⟩

/-- How the stream of the board goes on when all that has arrived was read. -/
def ending (w : World) : Ending := if w.board.endsWhenIdle then .closed else .silence

/-- A simulated board gives what it holds, at once. -/
theorem gives {pieces : List Bytes} {w : World} (h : Holds pieces w) :
    Transport.Gives w.ending 0 pieces.flatten w := by
  refine ⟨fun _ bytes v => ∃ pieces, bytes = pieces.flatten ∧ Holds pieces v ∧
    v.board.endsWhenIdle = w.board.endsWhenIdle, ⟨⟨?_, ?_, ?_⟩, ?_⟩, pieces, rfl, h, rfl⟩
  · rintro k bytes v ⟨pieces, rfl, h, hends⟩ t
    refine ⟨k, _, setTimeout_board h.link t, ⟨pieces, rfl, ?_, hends⟩, ?_⟩
    · exact ⟨h.link, h.running, h.board.isOpen, h.board.incoming, h.board.delayed⟩
    · exact ⟨Nat.le_refl _, Nat.le_refl _⟩
  · rintro k bytes v ⟨pieces, rfl, h, hends⟩ hne n hn
    obtain ⟨got, left, tally, hread, hgot, hflat⟩ := h.read hne hn
    exact ⟨k, _, .inl ⟨got, left.flatten, hflat, hgot, hread, left, rfl, ⟨h.link, h.running,
      h.board.isOpen, rfl, h.board.delayed⟩, hends⟩, Nat.le_refl _, Nat.le_refl _⟩
  · rintro k v ⟨pieces, hnil, h, hends⟩ n
    obtain ⟨v', hread, hlink, hrunning, hboard⟩ := h.read_nil hnil.symm n
    by_cases hidle : v.board.endsWhenIdle = true
    · rw [if_pos hidle] at hread
      exact .inl ⟨v', hread⟩
    · rw [if_neg hidle] at hread
      refine .inr ⟨_, v', hread, fun _ => ⟨0, [], rfl, ⟨hlink.trans h.link, hrunning.trans h.running, ?_⟩,
        ?_⟩⟩
      · rw [hboard]
        exact ⟨h.board.isOpen, rfl, h.board.delayed⟩
      · rw [hboard]
        exact hends
  · rintro k v ⟨pieces, hnil, h, hends⟩ n
    obtain ⟨v', hread, -⟩ := h.read_nil hnil.symm n
    rw [hread, hends, ending]
    split
    · exact .closed
    · exact .silence rfl

theorem delivers {pieces : List Bytes} {w : World} (h : Holds pieces w) :
    Transport.Delivers 0 pieces.flatten w :=
  (gives h).delivers

end World
end BoardBench.Sim
