import BoardBench.Console.Process
import BoardBench.Sim.Libraries

/-!
# Readers of processes

Each process has a reader, a thread of its own that takes from a pipe what the process prints and sends
it on, piece by piece, through a channel. The readers do not wait for the bench. `Machine` is a machine
on which all that the readers do during a call of the bench is laid down beforehand, call by call: what
holds on every such machine holds for every order in which the bench and the readers can act.
-/

namespace BoardBench.Readers

/-! ## Channels -/

/-- The channel from a reader to the bench. -/
structure Channel where
  /-- The pieces that were received, in order. -/
  received : List Bytes
  /-- The pieces that were sent since, in order. -/
  waiting : List Bytes
  /-- The reader has ended. -/
  finished : Bool
  filled : ∀ piece ∈ waiting, piece ≠ []

namespace Channel

/-- A channel that nothing was sent through. -/
def fresh : Channel := ⟨[], [], false, List.forall_mem_nil _⟩

/-- All that was sent. -/
def stream (c : Channel) : Bytes := (c.received ++ c.waiting).flatten

/-- What the reader does with the outcome of a read from the pipe. -/
def turn (r : Except Fault Bytes) (c : Channel) : Channel :=
  if c.finished then c
  else
    match r with
    | .ok [] => { c with finished := true }
    | .ok (b :: bs) =>
      { c with
        waiting := c.waiting ++ [b :: bs]
        filled := fun piece h => (List.mem_append.1 h).elim (c.filled piece) fun h =>
          List.mem_singleton.1 h ▸ List.cons_ne_nil b bs }
    | .error f => if f.kind = .interrupted then c else { c with finished := true }

/-- What there is to be received. -/
def receive (c : Channel) : Output × Channel :=
  match h : c.waiting with
  | piece :: rest =>
    (.chunk piece,
      { c with
        received := c.received ++ [piece]
        waiting := rest
        filled := fun q hq => c.filled q (h ▸ List.mem_cons_of_mem piece hq) })
  | [] => (if c.finished then .ended else .nothing, c)

/-- What was sent and received stays, and nothing is sent when the reader has ended. -/
structure Onward (c c' : Channel) : Prop where
  received : c.received <+: c'.received
  stream : c.stream <+: c'.stream
  finished : c.finished = true → c'.finished = true ∧ c'.stream = c.stream

theorem Onward.refl (c : Channel) : c.Onward c :=
  ⟨List.prefix_rfl, List.prefix_rfl, fun h => ⟨h, rfl⟩⟩

theorem Onward.trans {c c' c'' : Channel} (h : c.Onward c') (h' : c'.Onward c'') : c.Onward c'' where
  received := h.received.trans h'.received
  stream := h.stream.trans h'.stream
  finished hfinished :=
    have ⟨hfinished', hstream⟩ := h.finished hfinished
    ⟨(h'.finished hfinished').1, (h'.finished hfinished').2.trans hstream⟩

theorem turn_received (r : Except Fault Bytes) (c : Channel) : (c.turn r).received = c.received := by
  unfold turn
  split
  · rfl
  · split
    · rfl
    · rfl
    · split <;> rfl

theorem turn_onward (r : Except Fault Bytes) (c : Channel) : c.Onward (c.turn r) := by
  refine ⟨turn_received r c ▸ List.prefix_rfl, ?_, fun hfinished => ?_⟩
  · unfold turn
    split
    · exact List.prefix_rfl
    · split
      · exact List.prefix_rfl
      · exact ⟨_, by simp [stream]; rfl⟩
      · split <;> exact List.prefix_rfl
  · unfold turn
    rw [if_pos hfinished]
    exact ⟨hfinished, rfl⟩

theorem turn_waiting_length (r : Except Fault Bytes) (c : Channel) :
    (c.turn r).waiting.length ≤ c.waiting.length + 1 := by
  unfold turn
  split
  · exact Nat.le_succ _
  · split
    · exact Nat.le_succ _
    · simp
    · split <;> exact Nat.le_succ _

/-- What can come of receiving. -/
theorem receive_cases (c : Channel) :
    (∃ piece c', c.receive = (.chunk piece, c') ∧ piece ≠ [] ∧ c'.received = c.received ++ [piece] ∧
        c'.stream = c.stream ∧ c'.finished = c.finished ∧ c'.waiting.length < c.waiting.length) ∨
      c.receive = (.ended, c) ∧ c.finished = true ∧ c.waiting = [] ∨ c.receive = (.nothing, c) := by
  unfold receive
  split
  · rename_i piece rest hwaiting
    refine .inl ⟨piece, _, rfl, c.filled piece (hwaiting ▸ List.mem_cons_self), rfl, ?_, rfl, ?_⟩
    · simp [stream, hwaiting]
    · simp [hwaiting]
  · rename_i hwaiting
    by_cases hfinished : c.finished = true
    · rw [if_pos hfinished]
      exact .inr (.inl ⟨rfl, hfinished, hwaiting⟩)
    · rw [if_neg hfinished]
      exact .inr (.inr rfl)

theorem receive_onward (c : Channel) : c.Onward c.receive.2 := by
  rcases receive_cases c with ⟨piece, c', h, -, hreceived, hstream, hfinished, -⟩ | ⟨h, -⟩ | h <;> rw [h]
  · exact ⟨hreceived ▸ List.prefix_append _ _, hstream ▸ List.prefix_rfl,
      fun h => ⟨hfinished.trans h, hstream⟩⟩
  · exact .refl c
  · exact .refl c

end Channel

/-! ## Machines -/

/-- What happens on the machine during one call of the bench. -/
structure Slice where
  /-- The turns of the readers, each with the process and the outcome of its read from the pipe. -/
  turns : List (Nat × Except Fault Bytes) := []
  elapsed : Nat := 0
  /-- Why a process that is to be started cannot be. -/
  fault : Option Fault := none
  /-- How a process has ended that is asked for, or why that cannot be said. -/
  exit : Except Fault (Option ExitStatus) := .ok none

/-- A machine whose processes are numbered as they are started. -/
structure Machine where
  clock : Nat := 0
  channels : List Channel := []
  /-- What happens during the calls to come; nothing does during those that are not in it. -/
  schedule : List Slice := []

namespace Machine

def turn (channels : List Channel) (t : Nat × Except Fault Bytes) : List Channel :=
  channels.modify t.1 (·.turn t.2)

/-- Lets happen what happens during the next call. -/
def next (m : Machine) : Slice × Machine :=
  match m.schedule with
  | [] => ({}, m)
  | slice :: rest =>
    (slice, {
      clock := m.clock + slice.elapsed
      channels := slice.turns.foldl turn m.channels
      schedule := rest })

def spawn (m : Machine) : Except Fault Nat × Machine :=
  match m.next.1.fault with
  | some f => (.error f, m.next.2)
  | none => (.ok m.next.2.channels.length,
      { m.next.2 with channels := m.next.2.channels ++ [.fresh] })

def awaitOutput (p : Nat) (m : Machine) : Output × Machine :=
  match m.next.2.channels[p]? with
  | none => (.ended, m.next.2)
  | some c => (c.receive.1, { m.next.2 with channels := m.next.2.channels.set p c.receive.2 })

def takeOutput (p : Nat) (m : Machine) : Option Bytes × Machine :=
  match awaitOutput p m with
  | (.chunk piece, m) => (some piece, m)
  | (_, m) => (none, m)

/-- How many pieces of a process wait. -/
def waiting (p : Nat) (channels : List Channel) : Nat :=
  (channels[p]?.map (·.waiting.length)).getD 0

/-- The pieces of a process that wait, and those that may still be sent. -/
def backlog (p : Nat) (m : Machine) : Nat :=
  waiting p m.channels + m.schedule.foldr (fun slice n => slice.turns.length + n) 0

theorem waiting_turn (p : Nat) (t : Nat × Except Fault Bytes) (channels : List Channel) :
    waiting p (turn channels t) ≤ waiting p channels + 1 := by
  unfold waiting turn
  rw [List.getElem?_modify]
  cases channels[p]? with
  | none => exact Nat.zero_le _
  | some c =>
    by_cases hp : t.1 = p
    · simpa [hp] using c.turn_waiting_length t.2
    · simp [hp]

theorem waiting_turns (p : Nat) (turns : List (Nat × Except Fault Bytes)) (channels : List Channel) :
    waiting p (turns.foldl turn channels) ≤ waiting p channels + turns.length := by
  induction turns generalizing channels with
  | nil => exact Nat.le_refl _
  | cons t turns ih =>
    have hrest := ih (turn channels t)
    have hfirst := waiting_turn p t channels
    simp only [List.foldl_cons, List.length_cons]
    omega

theorem clock_next (m : Machine) : m.clock ≤ m.next.2.clock := by
  unfold next
  split
  · exact Nat.le_refl _
  · exact Nat.le_add_right _ _

theorem backlog_next (p : Nat) (m : Machine) : backlog p m.next.2 ≤ backlog p m := by
  unfold next
  split
  · exact Nat.le_refl _
  · rename_i slice rest hschedule
    have := waiting_turns p slice.turns m.channels
    simp only [backlog, hschedule, List.foldr_cons]
    omega

/-- A piece that was received waits no more. -/
theorem awaitOutput_chunk {p : Nat} {m m' : Machine} {piece : Bytes}
    (h : awaitOutput p m = (.chunk piece, m')) : m.clock ≤ m'.clock ∧ backlog p m' < backlog p m := by
  unfold awaitOutput at h
  split at h
  · cases h
  · rename_i c hc
    obtain ⟨hchunk, rfl⟩ := Prod.mk.inj h
    refine ⟨clock_next m, Nat.lt_of_lt_of_le ?_ (backlog_next p m)⟩
    rcases c.receive_cases with ⟨_, c', hreceive, -, -, -, -, hlt⟩ | ⟨hreceive, -⟩ | hreceive
    · have hp : p < m.next.2.channels.length := (List.getElem?_eq_some_iff.1 hc).1
      simp only [backlog, waiting, hreceive, hc, List.getElem?_set, hp, if_true, Option.map_some,
        Option.getD_some]
      omega
    · rw [hreceive] at hchunk
      cases hchunk
    · rw [hreceive] at hchunk
      cases hchunk

theorem takeOutput_some {p : Nat} {m m' : Machine} {piece : Bytes}
    (h : takeOutput p m = (some piece, m')) : awaitOutput p m = (.chunk piece, m') := by
  unfold takeOutput at h
  split at h
  · rename_i hawait
    cases h
    exact hawait
  · cases h

instance : Bench Machine where
  libraries := Sim.libraries
  now m := m.clock
  sleep t m := { m.next.2 with clock := m.clock + t.nanos }
  note _ _ m := m
  now_sleep _ _ := rfl

instance : Processes Machine where
  spawn _ := spawn
  awaitExit _ _ m := (m.next.1.exit, m.next.2)
  signal _ _ m := m.next.2
  awaitOutput p _ := awaitOutput p
  takeOutput := takeOutput
  sendInput _ bytes m := (.ok bytes.length, m.next.2)
  closeInput _ m := m.next.2
  outputBacklog := backlog
  awaitOutput_chunk _ _ _ _ _ h :=
    have ⟨hclock, hbacklog⟩ := awaitOutput_chunk h
    (Nat.lt_or_eq_of_le hclock).imp id fun heq => ⟨heq, hbacklog⟩
  takeOutput_some _ _ _ _ h := (awaitOutput_chunk (takeOutput_some h)).2

/-! ## What stays on a machine -/

/-- Every channel goes on. -/
def Onward (m m' : Machine) : Prop :=
  ∀ (p : Nat) (c : Channel), m.channels[p]? = some c →
    ∃ c', m'.channels[p]? = some c' ∧ c.Onward c'

theorem Onward.refl (m : Machine) : m.Onward m := fun _ c hc => ⟨c, hc, .refl c⟩

theorem Onward.trans {m m' m'' : Machine} (h : m.Onward m') (h' : m'.Onward m'') : m.Onward m'' := by
  intro p c hc
  obtain ⟨c', hc', hon⟩ := h p c hc
  obtain ⟨c'', hc'', hon'⟩ := h' p c' hc'
  exact ⟨c'', hc'', hon.trans hon'⟩

theorem Onward.length_le {m m' : Machine} (h : m.Onward m') :
    m.channels.length ≤ m'.channels.length := by
  refine Nat.le_of_not_lt fun hlt => ?_
  obtain ⟨c', hc', -⟩ := h _ _ (List.getElem?_eq_getElem hlt)
  exact Nat.lt_irrefl _ (List.getElem?_eq_some_iff.1 hc').1

/-- Every channel goes on, and nothing is received. -/
def Sending (m m' : Machine) : Prop :=
  ∀ (p : Nat) (c : Channel), m.channels[p]? = some c →
    ∃ c', m'.channels[p]? = some c' ∧ c.Onward c' ∧ c'.received = c.received

theorem Sending.refl (m : Machine) : m.Sending m := fun _ c hc => ⟨c, hc, .refl c, rfl⟩

theorem Sending.trans {m m' m'' : Machine} (h : m.Sending m') (h' : m'.Sending m'') :
    m.Sending m'' := by
  intro p c hc
  obtain ⟨c', hc', hon, hreceived⟩ := h p c hc
  obtain ⟨c'', hc'', hon', hreceived'⟩ := h' p c' hc'
  exact ⟨c'', hc'', hon.trans hon', hreceived'.trans hreceived⟩

theorem Sending.onward {m m' : Machine} (h : m.Sending m') : m.Onward m' := fun p c hc =>
  have ⟨c', hc', hon, _⟩ := h p c hc
  ⟨c', hc', hon⟩

/-- During a call the readers send, and nothing is received. -/
theorem next_sending (m : Machine) : m.Sending m.next.2 := by
  intro p c hc
  unfold next
  split
  · exact ⟨c, hc, .refl c, rfl⟩
  · rename_i slice rest _
    simp only
    generalize m.channels = channels at hc
    induction slice.turns generalizing channels c with
    | nil => exact ⟨c, hc, .refl c, rfl⟩
    | cons t turns ih =>
      obtain ⟨c₁, hc₁, hon, hreceived⟩ : ∃ c₁, (turn channels t)[p]? = some c₁ ∧ c.Onward c₁ ∧
          c₁.received = c.received := by
        unfold turn
        rw [List.getElem?_modify, hc]
        by_cases hp : t.1 = p
        · exact ⟨c.turn t.2, by simp [hp], c.turn_onward t.2, c.turn_received t.2⟩
        · exact ⟨c, by simp [hp], .refl c, rfl⟩
      obtain ⟨c₂, hc₂, hon', hreceived'⟩ := ih c₁ (turn channels t) hc₁
      exact ⟨c₂, hc₂, hon.trans hon', hreceived'.trans hreceived⟩

/-- What comes of waiting for the output of a process. -/
theorem awaitOutput_cases (m : Machine) {p : Nat} {c : Channel} (hc : m.channels[p]? = some c) :
    ∃ c', (awaitOutput p m).2.channels[p]? = some c' ∧
      ((∃ piece, (awaitOutput p m).1 = .chunk piece ∧ piece ≠ [] ∧
          c'.received = c.received ++ [piece]) ∨
        (awaitOutput p m).1 = .ended ∧ c'.received = c.received ∧ c'.waiting = [] ∧ c'.finished = true ∨
        (awaitOutput p m).1 = .nothing ∧ c'.received = c.received) := by
  obtain ⟨c₁, hc₁, -, hreceived⟩ := next_sending m p c hc
  have hp : p < m.next.2.channels.length := (List.getElem?_eq_some_iff.1 hc₁).1
  have hawait : awaitOutput p m = (c₁.receive.1,
      { m.next.2 with channels := m.next.2.channels.set p c₁.receive.2 }) := by
    unfold awaitOutput
    rw [hc₁]
  rw [hawait]
  refine ⟨c₁.receive.2, by simp [hp], ?_⟩
  rcases c₁.receive_cases with ⟨piece, c₂, h, hne, hpiece, -⟩ | ⟨h, hfinished, hwaiting⟩ | h <;> rw [h]
  · exact .inl ⟨piece, rfl, hne, hreceived ▸ hpiece⟩
  · exact .inr (.inl ⟨rfl, hreceived, hwaiting, hfinished⟩)
  · exact .inr (.inr ⟨rfl, hreceived⟩)

theorem awaitOutput_onward (p : Nat) (m : Machine) : m.Onward (awaitOutput p m).2 := by
  refine (next_sending m).onward.trans ?_
  unfold awaitOutput
  split
  · exact .refl _
  · rename_i c hc
    intro q d hd
    by_cases hq : p = q
    · subst hq
      obtain rfl := Option.some.inj (hc.symm.trans hd)
      have hp := (List.getElem?_eq_some_iff.1 hc).1
      exact ⟨c.receive.2, by simp [hp], c.receive_onward⟩
    · exact ⟨d, by simpa [hq] using hd, .refl d⟩

/-- A process that was started has a number that none had before, and has printed nothing yet. -/
theorem spawn_cases (m : Machine) :
    (∃ f, m.spawn.1 = .error f ∧ m.Sending m.spawn.2) ∨
      ∃ p, m.spawn.1 = .ok p ∧ m.Onward m.spawn.2 ∧ m.channels.length ≤ p ∧
        m.spawn.2.channels[p]? = some .fresh := by
  have hnext := (next_sending m).onward
  unfold spawn
  split
  · exact .inl ⟨_, rfl, next_sending m⟩
  · refine .inr ⟨_, rfl, hnext.trans fun p (c : Channel) hc => ⟨c, ?_, .refl c⟩, hnext.length_le, by simp⟩
    rw [List.getElem?_append_left (List.getElem?_eq_some_iff.1 hc).1]
    exact hc

theorem takeOutput_onward (p : Nat) (m : Machine) : m.Onward (takeOutput p m).2 := by
  have hawait := awaitOutput_onward p m
  unfold takeOutput
  split
  · rename_i h
    rwa [h] at hawait
  · rename_i h
    rwa [h] at hawait

theorem discardArrived_onward (p : Nat) (m : Machine) : m.Onward (Processes.discardArrived p m) := by
  have taken {m m' : Machine} {r : Option Bytes} (h : Processes.takeOutput p m = (r, m')) : m.Onward m' :=
    have htake : (takeOutput p m).2 = m' := congrArg Prod.snd h
    htake ▸ takeOutput_onward p m
  fun_induction Processes.discardArrived p m with
  | case1 m _ m' htake ih => exact (taken htake).trans ih
  | case2 m m' htake => exact taken htake

theorem discardUntil_onward (p deadline : Nat) (m : Machine) :
    m.Onward (Processes.discardUntil p deadline m).2 := by
  fun_induction Processes.discardUntil p deadline m with
  | case1 m => exact .refl m
  | case2 m _ _ m' hchunk ih => exact (congrArg Prod.snd hchunk ▸ awaitOutput_onward p m).trans ih
  | case3 m _ m' hended => exact congrArg Prod.snd hended ▸ awaitOutput_onward p m
  | case4 m _ m' hnothing => exact congrArg Prod.snd hnothing ▸ awaitOutput_onward p m

/-- Nothing is received while a process is stopped, whether it can be or not. -/
theorem stop_sending (p : Nat) (grace : Span) (m : Machine) :
    m.Sending (Processes.stop p grace m).2 := by
  have awaitExit {t : Span} {m m' : Machine} {r : Except Fault (Option ExitStatus)}
      (h : Processes.awaitExit p t m = (r, m')) : m.Sending m' :=
    have hnext : m.next.2 = m' := congrArg Prod.snd h
    hnext ▸ next_sending m
  unfold Processes.stop
  split
  · exact awaitExit ‹_›
  · exact awaitExit ‹_›
  · rename_i m₁ h₁
    have hasked := (awaitExit h₁).trans (next_sending m₁)
    split
    · exact hasked.trans (awaitExit ‹_›)
    · exact hasked.trans (awaitExit ‹_›)
    · rename_i m₂ h₂
      have hkilled := (hasked.trans (awaitExit h₂)).trans (next_sending m₂)
      dsimp only
      split <;> exact hkilled.trans (awaitExit ‹_›)

end Machine
end BoardBench.Readers
