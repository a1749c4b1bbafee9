import BoardBench.Proofs.Session.Chunking
import BoardBench.Proofs.Sim.Delivery

/-!
# A simulated board plays a script

The part of a board is what it answers to what is written, with each answer as one run of bytes. A
board that prints its answers at once plays the script of its part (`plays`), in whatever pieces it
prints them.
-/

namespace BoardBench.Sim

/-- An answer to something written, in one. -/
structure Answer where
  trigger : Bytes
  reply : Bytes
  repeats : Bool

/-- What a board answers, and what was written to it and has no answer yet. -/
structure Part where
  answers : List Answer
  unmatched : Bytes

namespace Part

/-- Gives the answers that can be given, at most `fuel` of them. -/
def answer : Nat → Part → Bytes × Part
  | 0, p => ([], p)
  | fuel + 1, p =>
    match p.answers with
    | [] => ([], p)
    | a :: rest =>
      match Bytes.indexOf? a.trigger p.unmatched with
      | none => ([], p)
      | some i =>
        let q := answer fuel ⟨if a.repeats then a :: rest else rest,
          p.unmatched.drop (i + a.trigger.length)⟩
        (a.reply ++ q.1, q.2)

/-- How many bytes are taken at once. -/
def room (chunk : Option Nat) (bytes : Bytes) : Nat := min bytes.length (chunk.getD bytes.length)

/-- What is printed when bytes are written, and the part that is left. -/
def take (chunk : Option Nat) (bytes : Bytes) (p : Part) : Bytes × Part :=
  if bytes.isEmpty then ([], p)
  else
    let p := { p with unmatched := p.unmatched ++ bytes.take (room chunk bytes) }
    p.answer (p.unmatched.length + p.answers.length)

/-- The script of boards that take so many bytes at once. -/
def script (chunk : Option Nat) : Script Part where
  takes _ bytes := room chunk bytes
  reply p bytes := (p.take chunk bytes).1
  next p bytes := (p.take chunk bytes).2

end Part

/-- The bytes that an emission brings. -/
def Emission.bytes (e : Emission) : Bytes :=
  match e.item with
  | .data bytes => bytes
  | _ => []

/-- The emission brings bytes, and at once. -/
structure Emission.Prompt (e : Emission) : Prop where
  item : e.item = .data e.bytes
  delay : e.delay.nanos = 0

def Rule.answer (r : Rule) : Answer := ⟨r.trigger, (r.reply.map Emission.bytes).flatten, r.repeats⟩

namespace Board

def part (b : Board) : Part := ⟨b.rules.map Rule.answer, b.unmatched⟩

/-- The board answers at once, never fails and does not end the stream. -/
structure Prompt (chunk : Option Nat) (pieces : List Bytes) (b : Board) : Prop
    extends b.Holds pieces where
  rules : ∀ r ∈ b.rules, ∀ e ∈ r.reply, e.Prompt
  goesOn : b.endsWhenIdle = false
  limit : b.writeLimit = none
  chunk : b.writeChunk = chunk

variable {chunk : Option Nat} {pieces : List Bytes} {b : Board}

theorem emit_of_prompt {es : List Emission} (h : ∀ e ∈ es, e.Prompt) (now : Nat) :
    emit now es b = { b with incoming := b.incoming ++ (es.map Emission.bytes).map .data } := by
  unfold emit
  induction es generalizing b with
  | nil => simp
  | cons e es ih =>
    have he := h e List.mem_cons_self
    have hone : emitOne now b e = { b with incoming := b.incoming ++ [.data e.bytes] } := by
      unfold emitOne
      rw [if_pos he.delay, ← he.item]
    rw [List.foldl_cons, hone, ih fun e' he' => h e' (List.mem_cons_of_mem e he')]
    simp

/-- The rules fire as the answers of the part are given. -/
theorem Prompt.fireRules (now : Nat) : ∀ (fuel : Nat) {pieces : List Bytes} {b : Board},
    b.Prompt chunk pieces → ∃ more, (b.fireRules now fuel).Prompt chunk (pieces ++ more) ∧
      b.part.answer fuel = (more.flatten, (b.fireRules now fuel).part) := by
  intro fuel
  induction fuel with
  | zero =>
    intro pieces b h
    exact ⟨[], by rwa [List.append_nil], rfl⟩
  | succ fuel ih =>
    intro pieces b h
    rcases hrules : b.rules with _ | ⟨rule, rest⟩
    · refine ⟨[], ?_, ?_⟩
      · simp only [Board.fireRules, hrules]
        rwa [List.append_nil]
      · simp only [Board.fireRules, Board.part, Part.answer, hrules, List.map_nil, List.flatten_nil]
    rcases hindex : Bytes.indexOf? rule.trigger b.unmatched with _ | i
    · refine ⟨[], ?_, ?_⟩
      · simp only [Board.fireRules, hrules, hindex]
        rwa [List.append_nil]
      · simp only [Board.fireRules, Board.part, Part.answer, hrules, hindex, List.map_cons,
          Rule.answer, List.flatten_nil]
    -- the board after the first rule has fired
    let c : Board := { b with
      unmatched := b.unmatched.drop (i + rule.trigger.length)
      rules := if rule.repeats then rule :: rest else rest
      incoming := b.incoming ++ (rule.reply.map Emission.bytes).map .data }
    have hreply : ∀ e ∈ rule.reply, e.Prompt :=
      h.rules rule (by rw [hrules]; exact List.mem_cons_self)
    have hc : c.Prompt chunk (pieces ++ rule.reply.map Emission.bytes) := by
      refine ⟨⟨h.isOpen, ?_, h.delayed⟩, fun r hr => h.rules r ?_, h.goesOn, h.limit, h.chunk⟩
      · show b.incoming ++ _ = _
        rw [h.incoming, List.map_append]
      · rw [hrules]
        change r ∈ (if rule.repeats then rule :: rest else rest) at hr
        split at hr
        · exact hr
        · exact List.mem_cons_of_mem rule hr
    have hfire : b.fireRules now (fuel + 1) = c.fireRules now fuel := by
      simp only [Board.fireRules, hrules, hindex]
      rw [emit_of_prompt hreply]
    have hanswer : b.part.answer (fuel + 1) =
        ((rule.reply.map Emission.bytes).flatten ++ (c.part.answer fuel).1,
          (c.part.answer fuel).2) := by
      have hpart : c.part = ⟨if rule.repeats then rule.answer :: rest.map Rule.answer
          else rest.map Rule.answer, b.unmatched.drop (i + rule.trigger.length)⟩ := by
        simp only [c, Board.part]
        split <;> rfl
      rw [hpart]
      simp only [Board.part, Part.answer, hrules, List.map_cons]
      simp only [Rule.answer, hindex]
      rfl
    obtain ⟨more, hmore, hrest⟩ := ih hc
    refine ⟨rule.reply.map Emission.bytes ++ more, ?_, ?_⟩
    · rwa [hfire, ← List.append_assoc]
    · rw [hanswer, hfire, hrest, List.flatten_append]

theorem Prompt.write (h : b.Prompt chunk pieces) (now : Nat) (bytes : Bytes) :
    ∃ more b', b.write now bytes = (.ok (Part.room chunk bytes), b') ∧
      b'.Prompt chunk (pieces ++ more) ∧ b.part.take chunk bytes = (more.flatten, b'.part) := by
  obtain rfl := h.chunk
  unfold Board.write Part.take
  by_cases hempty : bytes.isEmpty = true
  · refine ⟨[], b, ?_, by rwa [List.append_nil], if_pos hempty⟩
    simp only [Part.room, List.isEmpty_iff.1 hempty, List.length_nil, Nat.zero_min]
    rfl
  · have hlength : bytes.length ≠ 0 := fun hzero =>
      hempty (List.isEmpty_iff.2 (List.length_eq_zero_iff.1 hzero))
    simp only [if_neg hempty, h.limit, Option.map_none, Option.getD_none, if_neg hlength, Nat.min_self]
    -- the board with the bytes taken, before it answers
    let c : Board := { b with
      unmatched := b.unmatched ++ bytes.take (Part.room b.writeChunk bytes)
      writeLimit := none
      tally := { b.tally with
        written := b.tally.written ++ bytes.take (Part.room b.writeChunk bytes) } }
    have hc : c.Prompt b.writeChunk pieces :=
      ⟨⟨h.isOpen, h.incoming, h.delayed⟩, h.rules, h.goesOn, rfl, rfl⟩
    obtain ⟨more, hmore, hanswer⟩ := hc.fireRules now (c.unmatched.length + c.rules.length)
    refine ⟨more, _, rfl, hmore, ?_⟩
    show _ = (more.flatten, (c.fireRules now (c.unmatched.length + c.rules.length)).part)
    rw [← hanswer]
    simp only [c, Board.part, List.length_map]

end Board

namespace World

/-- The bench reaches the board itself, which answers at once. -/
structure Prompt (chunk : Option Nat) (pieces : List Bytes) (w : World) : Prop where
  link : w.link = .board
  running : w.aborted = false
  board : w.board.Prompt chunk pieces

theorem Prompt.holds {chunk : Option Nat} {pieces : List Bytes} {w : World}
    (h : w.Prompt chunk pieces) : w.Holds pieces :=
  ⟨h.link, h.running, h.board.toHolds⟩

/-- A simulated board that answers at once plays the script of its part. -/
theorem plays {chunk : Option Nat} {pieces : List Bytes} {w : World} (h : w.Prompt chunk pieces) :
    Transport.Plays (Part.script chunk) w.board.part pieces.flatten w := by
  refine ⟨fun p out w => ∃ pieces, p = w.board.part ∧ out = pieces.flatten ∧ w.Prompt chunk pieces,
    ?_, pieces, rfl, rfl, h⟩
  constructor
  case note =>
    rintro _ _ w ⟨pieces, rfl, rfl, h⟩ level text
    have hnote : Bench.note level text w = w.show (.note level text) := rfl
    rw [hnote, World.show, if_neg (by rw [h.running]; exact Bool.false_ne_true)]
    exact ⟨pieces, rfl, rfl, h.link, h.running, h.board⟩
  case setTimeout =>
    rintro _ _ w ⟨pieces, rfl, rfl, h⟩ t
    refine ⟨{ w with board := { w.board with timeout := t } }, ?_, ⟨pieces, rfl, rfl, h.link, h.running,
      ⟨h.board.isOpen, h.board.incoming, h.board.delayed⟩, h.board.rules, h.board.goesOn,
      h.board.limit, h.board.chunk⟩, rfl⟩
    show transportSetTimeout t w = _
    unfold transportSetTimeout
    rw [h.link]
  case read =>
    rintro _ _ w ⟨pieces, rfl, rfl, h⟩ hne n hn
    obtain ⟨got, left, tally, hread, hgot, hflat⟩ := h.holds.read hne hn
    exact ⟨got, left.flatten, _, hflat, hgot, hread, ⟨left, rfl, rfl, h.link, h.running,
      ⟨h.board.isOpen, rfl, h.board.delayed⟩, h.board.rules, h.board.goesOn, h.board.limit,
      h.board.chunk⟩, rfl⟩
  case silent =>
    rintro _ w ⟨pieces, rfl, hnil, h⟩ n
    obtain ⟨w', hread, hlink, hrunning, hboard⟩ := h.holds.read_nil hnil.symm n
    rw [if_neg (by rw [h.board.goesOn]; exact Bool.false_ne_true)] at hread
    refine ⟨_, w', rfl, hread, [], ?_, rfl, hlink.trans h.link, hrunning.trans h.running, ?_⟩
    · rw [hboard]
      rfl
    · rw [hboard]
      exact ⟨⟨h.board.isOpen, rfl, h.board.delayed⟩, h.board.rules, h.board.goesOn, h.board.limit,
        h.board.chunk⟩
  case write =>
    rintro _ _ w ⟨pieces, rfl, rfl, h⟩ bytes
    obtain ⟨more, b, hwrite, hb, htake⟩ := h.board.write w.now bytes
    refine ⟨{ w with board := b }, ?_, pieces ++ more, ?_, ?_, h.link, h.running, hb⟩
    · show transportWrite bytes w = _
      unfold transportWrite
      rw [if_neg (by rw [h.running]; exact Bool.false_ne_true), h.link]
      simp only [hwrite]
      rfl
    · show (w.board.part.take chunk bytes).2 = b.part
      rw [htake]
    · show pieces.flatten ++ (w.board.part.take chunk bytes).1 = _
      rw [htake, List.flatten_append]
  case flush =>
    rintro _ _ w ⟨pieces, rfl, rfl, h⟩
    refine ⟨w, ?_, pieces, rfl, rfl, h⟩
    simp only [Transport.flush, h.link]

end World
end BoardBench.Sim
