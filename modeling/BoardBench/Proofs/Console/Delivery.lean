import BoardBench.Proofs.Console.Readers

/-!
# What the console of a process delivers

Reads of a console, in whatever order they, the readers and the other operations act, give the output
of its process piece by piece: a console stands at a place in that output (`Stands`), reads move it on
by the bytes that they give, and only other operations move it past bytes that are not given. It still
stands there when it has lost the process, and what was pending is still given. A console that was started
again stands at the beginning of the output of a process that no console had before
(`performAll_faithful`).
-/

namespace BoardBench.ProcessConsole

open Readers

/-! ## Operations -/

/-- What is done with a console. -/
inductive Op where
  | read (n : Nat) (timeout : Span)
  | clear
  | reopen
  | close

/-- What an operation comes to. -/
inductive Answer where
  | bytes (r : Except Fault Bytes)
  | outcome (r : Except Error Unit)
  | done

/-- The bytes that an operation gives. -/
def Answer.given : Answer → Bytes
  | bytes (.ok bs) => bs
  | _ => []

def Op.isRead : Op → Bool
  | read .. => true
  | _ => false

section

variable {δ : Type} [Bench δ] [Processes δ]

/-- A console before it is first started. -/
def unstarted (config : ProcessConfig) : ProcessConsole := ⟨config, none, [], .ofMillis 100⟩

def Op.perform : Op → ProcessConsole × δ → Answer × ProcessConsole × δ
  | read n timeout, (c, d) =>
    (.bytes ({ c with timeout }.read n d).1, ({ c with timeout }.read n d).2)
  | clear, (c, d) => (.done, c.clear d)
  | reopen, (c, d) => (.outcome (c.reopen d).1, (c.reopen d).2)
  | close, (c, d) => (.outcome (c.stop d).1, (c.stop d).2)

def performAll : List Op → ProcessConsole × δ → List Answer × ProcessConsole × δ
  | [], s => ([], s)
  | op :: ops, s =>
    ((op.perform s).1 :: (performAll ops (op.perform s).2).1, (performAll ops (op.perform s).2).2)

/-- The process that a console has after operations, or had last; `p?` is what it was before them. -/
def lastChild (p? : Option Nat) : List Op → ProcessConsole × δ → Option Nat
  | [], _ => p?
  | op :: ops, s => lastChild ((op.perform s).2.1.child.or p?) ops (op.perform s).2

/-- To start a console for the first time is to start it again. -/
theorem reopen_unstarted (config : ProcessConfig) (d : δ) :
    (unstarted config).reopen d = spawn config d := rfl

end

/-- All bytes that operations give. -/
def given (answers : List Answer) : Bytes := (answers.map Answer.given).flatten

/-! ## Places in the output -/

/-- The console is that of process `p`, unless it has lost the process, and has given or dropped `front` of
the output. -/
structure Stands (p : Nat) (front : Bytes) (s : ProcessConsole × Machine) : Prop where
  child : s.1.child = some p ∨ s.1.child = none
  place : ∃ c, s.2.channels[p]? = some c ∧ c.received.flatten = front ++ s.1.pending

/-- What a console stands on whose last process was `p?`, whatever was done with it. -/
inductive Tidy : Option Nat → ProcessConsole × Machine → Prop
  | untouched {s} : s.1.child = none → s.1.pending = [] → Tidy none s
  | stands {p front s} : Stands p front s → Tidy (some p) s

variable {s s' : ProcessConsole × Machine} {p : Nat} {p? : Option Nat} {front : Bytes}

theorem Stands.or_child (h : Stands p front s) : s.1.child.or (some p) = some p := by
  rcases h.child with hchild | hchild <;> rw [hchild] <;> rfl

/-- Where nothing is received and what is pending stays, the console stays where it stands. -/
theorem Stands.stay (h : Stands p front s) (hchild : s'.1.child = s.1.child ∨ s'.1.child = none)
    (hpending : s'.1.pending = s.1.pending) (hsending : s.2.Sending s'.2) : Stands p front s' := by
  obtain ⟨c, hc, hplace⟩ := h.place
  obtain ⟨c', hc', -, hreceived⟩ := hsending p c hc
  refine ⟨hchild.elim (fun heq => heq.symm ▸ h.child) .inr, c', hc', ?_⟩
  rw [hreceived, hplace, hpending]

/-- Where nothing is pending any more, the console has moved past bytes that were not given. -/
theorem Stands.drop (h : Stands p front s) (hchild : s'.1.child = s.1.child ∨ s'.1.child = none)
    (hpending : s'.1.pending = []) (hon : s.2.Onward s'.2) :
    ∃ dropped, Stands p (front ++ dropped) s' := by
  obtain ⟨c, hc, hplace⟩ := h.place
  obtain ⟨c', hc', hon'⟩ := hon p c hc
  obtain ⟨more, hmore⟩ := hon'.received
  refine ⟨s.1.pending ++ more.flatten, hchild.elim (fun heq => heq.symm ▸ h.child) .inr, c', hc', ?_⟩
  rw [← hmore, List.flatten_append, hplace, hpending, List.append_nil, List.append_assoc]

/-! ## Reading -/

theorem read_pending {c : ProcessConsole} {m : Machine} {n : Nat} (hn : n ≠ 0) (h : c.pending ≠ []) :
    c.read n m = (.ok (c.pending.take n), { c with pending := c.pending.drop n }, m) := by
  unfold ProcessConsole.read
  rw [if_neg hn, if_pos (by simpa using h)]
  rfl

theorem read_awaiting {c : ProcessConsole} {m : Machine} {n : Nat} (hn : n ≠ 0) (h : c.pending = [])
    (hchild : c.child = some p) :
    c.read n m =
      match (Machine.awaitOutput p m).1 with
      | .chunk bytes =>
        (.ok (bytes.take n), { c with pending := bytes.drop n }, (Machine.awaitOutput p m).2)
      | .ended => (.ok [], c, (Machine.awaitOutput p m).2)
      | .nothing => (.error ⟨.timedOut, "no output"⟩, c, (Machine.awaitOutput p m).2) := by
  unfold ProcessConsole.read
  rw [if_neg hn, if_neg (by simp [h]), hchild]
  have hawait : Processes.awaitOutput p c.timeout m = Machine.awaitOutput p m := rfl
  simp only [hawait]
  rcases Machine.awaitOutput p m with ⟨piece | _ | _, m'⟩ <;> rfl

theorem read_closed {c : ProcessConsole} {m : Machine} {n : Nat} (hn : n ≠ 0) (h : c.pending = [])
    (hchild : c.child = none) : c.read n m = (.error closedFault, c, m) := by
  unfold ProcessConsole.read
  rw [if_neg hn, if_neg (by simp [h]), hchild]

/-- Where there is no process, a read gives of what is pending, and is an error when that is nothing. -/
theorem read_childless (h : s.1.child = none) (n : Nat) (timeout : Span) :
    ((Op.read n timeout).perform s).1.given ++ ((Op.read n timeout).perform s).2.1.pending = s.1.pending ∧
      ((Op.read n timeout).perform s).2.1.child = none ∧
      ((Op.read n timeout).perform s).2.2 = s.2 ∧
      (0 < n → ((Op.read n timeout).perform s).1 ≠ .bytes (.ok [])) := by
  obtain ⟨c, m⟩ := s
  simp only [Op.perform]
  generalize hready : { c with timeout } = ready
  have hpending : ready.pending = c.pending := hready ▸ rfl
  replace h : ready.child = none := hready ▸ h
  rw [← hpending]
  by_cases hn : n = 0
  · subst hn
    exact ⟨rfl, h, rfl, fun hpos => absurd hpos (Nat.lt_irrefl 0)⟩
  by_cases hempty : ready.pending = []
  · rw [read_closed hn hempty h, hempty]
    exact ⟨rfl, h, rfl, fun _ => nofun⟩
  · rw [read_pending hn hempty]
    refine ⟨List.take_append_drop n _, h, rfl, fun _ hnone => ?_⟩
    simp [hn, hempty] at hnone

theorem read_child (c : ProcessConsole) (m : Machine) (n : Nat) :
    (c.read n m).2.1.child = c.child ∧ m.Onward (c.read n m).2.2 := by
  by_cases hn : n = 0
  · subst hn
    exact ⟨rfl, .refl m⟩
  by_cases hempty : c.pending = []
  · cases hchild : c.child with
    | none =>
      rw [read_closed hn hempty hchild]
      exact ⟨hchild, .refl m⟩
    | some p =>
      have hon := m.awaitOutput_onward p
      rw [read_awaiting hn hempty hchild]
      cases (Machine.awaitOutput p m).1 <;> exact ⟨hchild, hon⟩
  · rw [read_pending hn hempty]
    exact ⟨rfl, .refl m⟩

/-- A read moves the console on by the bytes that it gives; it gives none at the end only. -/
theorem Stands.read (h : Stands p front s) (n : Nat) (timeout : Span) :
    Stands p (front ++ ((Op.read n timeout).perform s).1.given) ((Op.read n timeout).perform s).2 ∧
      (0 < n → ((Op.read n timeout).perform s).1 = .bytes (.ok []) →
        s.1.child = some p ∧ ∃ c, ((Op.read n timeout).perform s).2.2.channels[p]? = some c ∧
          c.finished = true ∧ c.stream = front) := by
  obtain ⟨ch, hch, hplace⟩ := h.place
  rcases h.child with hchild | hchild
  case inr =>
    obtain ⟨hgiven, hchild', hsame, hsome⟩ := read_childless hchild n timeout
    refine ⟨⟨.inr hchild', ch, hsame ▸ hch, ?_⟩, fun hn hnone => absurd hnone (hsome hn)⟩
    rw [hplace, List.append_assoc, hgiven]
  obtain ⟨c, m⟩ := s
  simp only [Op.perform]
  generalize hready : { c with timeout } = ready
  have hpending : ready.pending = c.pending := hready ▸ rfl
  have hready : ready.child = some p := hready ▸ hchild
  have stands {pending : Bytes} {m' : Machine} {ch' : Channel} {given : Bytes}
      (hch' : m'.channels[p]? = some ch') (hplace' : ch'.received.flatten = front ++ (given ++ pending)) :
      Stands p (front ++ given) ({ ready with pending }, m') :=
    ⟨.inl hready, ch', hch', hplace'.trans (List.append_assoc ..).symm⟩
  rw [← hpending] at hplace
  by_cases hn : n = 0
  · subst hn
    exact ⟨stands hch hplace, fun h => absurd h (Nat.lt_irrefl 0)⟩
  by_cases hempty : ready.pending = []
  · rw [hempty, List.append_nil] at hplace
    obtain ⟨ch', hch', hcases⟩ := m.awaitOutput_cases hch
    rw [read_awaiting hn hempty hready]
    rcases hcases with ⟨piece, h, hne, hreceived⟩ | ⟨h, hreceived, hwaiting, hfinished⟩ | ⟨h, hreceived⟩ <;>
      rw [h]
    · refine ⟨stands hch' ?_, fun hpos h => ?_⟩
      · simp [hreceived, hplace, Answer.given]
      · simp [hne, hn] at h
    · refine ⟨stands hch' ?_, fun _ _ => ⟨hchild, ch', hch', hfinished, ?_⟩⟩
      · simp [hreceived, hplace, Answer.given, hempty]
      · simp [Channel.stream, hwaiting, hreceived, hplace]
    · refine ⟨stands hch' ?_, fun _ h => ?_⟩
      · simp [hreceived, hplace, Answer.given, hempty]
      · cases h
  · rw [read_pending hn hempty]
    refine ⟨stands hch ?_, fun _ h => ?_⟩
    · simp [hplace, Answer.given]
    · simp [hn, hempty] at h

/-! ## Clearing, stopping and starting -/

theorem clear_spec (c : ProcessConsole) (m : Machine) :
    (c.clear m).1.child = c.child ∧ (c.clear m).1.pending = [] ∧ m.Onward (c.clear m).2 := by
  unfold clear
  cases hchild : c.child with
  | none => exact ⟨rfl, rfl, .refl m⟩
  | some p => exact ⟨rfl, rfl, m.discardArrived_onward p⟩

theorem Stands.clear (h : Stands p front s) : ∃ dropped, Stands p (front ++ dropped) (s.1.clear s.2) :=
  have ⟨hchild, hpending, hon⟩ := clear_spec s.1 s.2
  h.drop (.inl hchild) hpending hon

/-- A console without a process is left alone. One that has a process loses it, and unless it was stopped
keeps what was pending. -/
theorem stop_cases (c : ProcessConsole) (m : Machine) :
    c.child = none ∧ c.stop m = (.ok (), c, m) ∨
      c.child ≠ none ∧ (c.stop m).2.1.child = none ∧
        ((c.stop m).1 = .ok () ∧ (c.stop m).2.1.pending = [] ∧ m.Onward (c.stop m).2.2 ∨
          (∃ e, (c.stop m).1 = .error e) ∧ (c.stop m).2.1.pending = c.pending ∧
            m.Sending (c.stop m).2.2) := by
  unfold stop
  split
  · rename_i hchild
    exact .inl ⟨hchild, rfl⟩
  · rename_i p hchild
    refine .inr ⟨fun hnone => (by cases hchild.symm.trans hnone), ?_⟩
    have hstopped := m.next_sending.trans (Machine.stop_sending p c.config.stopTimeout m.next.2)
    have hclose : Processes.closeInput p m = m.next.2 := rfl
    rw [hclose]
    rcases hstop : Processes.stop p c.config.stopTimeout m.next.2 with ⟨f | ended, m'⟩ <;>
      rw [hstop] at hstopped
    · exact ⟨rfl, .inr ⟨⟨_, rfl⟩, rfl, hstopped⟩⟩
    · have hdrained := hstopped.onward.trans
        (Machine.discardUntil_onward p (Bench.now m' + c.config.stopTimeout.nanos) m')
      rcases hdrain : Processes.discardUntil p (Bench.now m' + c.config.stopTimeout.nanos) m' with
        ⟨finished, m''⟩
      rw [hdrain] at hdrained
      refine ⟨rfl, .inl ⟨rfl, rfl, ?_⟩⟩
      simp only [hdrain]
      cases finished <;> exact hdrained

theorem stop_childless (c : ProcessConsole) (m : Machine) :
    (c.stop m).2.1.child = none ∧ m.Onward (c.stop m).2.2 ∧
      (c.pending = [] → (c.stop m).2.1.pending = []) := by
  rcases c.stop_cases m with ⟨hchild, h⟩ | ⟨-, hchild, ⟨-, hpending, hon⟩ | ⟨-, hpending, hsending⟩⟩
  · rw [h]
    exact ⟨hchild, .refl m, id⟩
  · exact ⟨hchild, hon, fun _ => hpending⟩
  · exact ⟨hchild, hsending.onward, fun h => hpending.trans h⟩

theorem Stands.stop (h : Stands p front s) : ∃ dropped, Stands p (front ++ dropped) (s.1.stop s.2).2 := by
  rcases s.1.stop_cases s.2 with ⟨-, h'⟩ | ⟨-, hchild, ⟨-, hpending, hon⟩ | ⟨-, hpending, hsending⟩⟩
  · rw [h']
    exact ⟨[], (List.append_nil front).symm ▸ h⟩
  · exact h.drop (.inr hchild) hpending hon
  · exact ⟨[], (List.append_nil front).symm ▸ h.stay (.inr hchild) hpending hsending⟩

theorem start_cases (c : ProcessConsole) (m : Machine) :
    (∃ e, (c.start m).1 = .error e ∧ (c.start m).2.1 = c ∧ m.Sending (c.start m).2.2) ∨
      ∃ p, (c.start m).1 = .ok () ∧ m.channels.length ≤ p ∧ m.Onward (c.start m).2.2 ∧
        (c.start m).2.1.child = some p ∧ Stands p [] (c.start m).2 ∧
        (c.start m).2.2.channels[p]? = some .fresh := by
  unfold start
  have hspawn : Processes.spawn ⟨c.config.program, c.config.args, c.config.cwd, true⟩ m = m.spawn := rfl
  rw [hspawn]
  rcases hm : m.spawn with ⟨f | p, m'⟩
  · refine .inl ⟨.io f, rfl, rfl, ?_⟩
    rcases m.spawn_cases with ⟨_, -, hsending⟩ | ⟨p, hp, -⟩
    · rwa [hm] at hsending
    · rw [hm] at hp
      cases hp
  · refine .inr ⟨p, rfl, ?_⟩
    rcases m.spawn_cases with ⟨_, hf, -⟩ | ⟨_, hp, hon, hfresh, hchannel⟩
    · rw [hm] at hf
      cases hf
    · rw [hm] at hp hon hchannel
      cases hp
      exact ⟨hfresh, hon, rfl, ⟨.inl rfl, .fresh, hchannel, rfl⟩, hchannel⟩

/-- A console that could not be started again has no process, and stands in the output of the one that it
had; one that could be has a new process, and stands at the beginning of its output. -/
theorem reopen_cases (s : ProcessConsole × Machine) :
    s.2.Onward (Op.reopen.perform s).2.2 ∧
      ((∃ e, (Op.reopen.perform s).1 = .outcome (.error e)) ∧ (Op.reopen.perform s).2.1.child = none ∧
          (s.1.pending = [] → (Op.reopen.perform s).2.1.pending = []) ∧
          (∀ p front, Stands p front s →
            ∃ dropped, Stands p (front ++ dropped) (Op.reopen.perform s).2) ∨
        ∃ p, (Op.reopen.perform s).1 = .outcome (.ok ()) ∧ s.2.channels.length ≤ p ∧
          (Op.reopen.perform s).2.1.child = some p ∧ Stands p [] (Op.reopen.perform s).2 ∧
          (Op.reopen.perform s).2.2.channels[p]? = some .fresh) := by
  obtain ⟨hchild, hon, hpending⟩ := s.1.stop_childless s.2
  have hstands (p : Nat) (front : Bytes) (h : Stands p front s) := h.stop
  simp only [Op.perform, reopen]
  rcases hstop : s.1.stop s.2 with ⟨e | _, c, m⟩ <;> simp only [hstop] at hchild hon hpending hstands ⊢
  · exact ⟨hon, .inl ⟨⟨e, rfl⟩, hchild, hpending, hstands⟩⟩
  rcases c.start_cases m with ⟨e, he, hsame, hsending⟩ | ⟨p, hok, hfresh, hon', hchild', hstands', hchannel⟩
  · have hchild' := congrArg child hsame
    have hpending' := congrArg pending hsame
    refine ⟨hon.trans hsending.onward, .inl ⟨⟨e, he ▸ rfl⟩, hchild'.trans hchild,
      fun h => hpending'.trans (hpending h), fun p front h => ?_⟩⟩
    obtain ⟨dropped, h'⟩ := hstands p front h
    exact ⟨dropped, h'.stay (.inl hchild') hpending' hsending⟩
  · exact ⟨hon.trans hon',
      .inr ⟨p, hok ▸ rfl, Nat.le_trans hon.length_le hfresh, hchild', hstands', hchannel⟩⟩

/-! ## Runs of operations -/

/-- From `s`, where the last process is `p?`, the way leads to `s'`, where it is `q?`: every channel goes on,
and what was started on the way is new. -/
structure Leads (p? : Option Nat) (s : ProcessConsole × Machine) (q? : Option Nat)
    (s' : ProcessConsole × Machine) : Prop where
  tidy : Tidy q? s'
  onward : s.2.Onward s'.2
  last : ∀ p, q? = some p → p? = some p ∨ s.2.channels.length ≤ p

theorem Leads.trans {s'' : ProcessConsole × Machine} {q? r? : Option Nat} (h : Leads p? s q? s')
    (h' : Leads q? s' r? s'') : Leads p? s r? s'' where
  tidy := h'.tidy
  onward := h.onward.trans h'.onward
  last p hp := (h'.last p hp).elim (h.last p) fun hle => .inr (Nat.le_trans h.onward.length_le hle)

/-- The last process stays what it was where none is started. -/
theorem Tidy.stay (h : Tidy p? s) (hon : s.2.Onward s'.2)
    (huntouched : s.1.child = none → s.1.pending = [] → s'.1.child = none ∧ s'.1.pending = [])
    (hstands : ∀ p front, Stands p front s → ∃ front', Stands p front' s') :
    Leads p? s (s'.1.child.or p?) s' := by
  cases h with
  | untouched hchild hpending =>
    obtain ⟨hchild', hpending'⟩ := huntouched hchild hpending
    rw [hchild']
    exact ⟨.untouched hchild' hpending', hon, fun p hp => .inl hp⟩
  | stands hs =>
    obtain ⟨front', hs'⟩ := hstands _ _ hs
    rw [hs'.or_child]
    exact ⟨.stands hs', hon, fun p hp => .inl hp⟩

theorem Tidy.perform (h : Tidy p? s) (op : Op) :
    Leads p? s ((op.perform s).2.1.child.or p?) (op.perform s).2 := by
  cases op with
  | read n timeout =>
    refine h.stay (read_child { s.1 with timeout } s.2 n).2 (fun hchild hpending => ?_)
      fun p front hs => ⟨_, (hs.read n timeout).1⟩
    obtain ⟨hgiven, hchild', -⟩ := read_childless hchild n timeout
    rw [hpending] at hgiven
    exact ⟨hchild', (List.append_eq_nil_iff.1 hgiven).2⟩
  | clear =>
    obtain ⟨hchild, hpending, hon⟩ := clear_spec s.1 s.2
    exact h.stay hon (fun hnone _ => ⟨hchild.trans hnone, hpending⟩) fun p front hs =>
      have ⟨_, hs'⟩ := hs.clear
      ⟨_, hs'⟩
  | close =>
    obtain ⟨hchild, hon, hpending⟩ := s.1.stop_childless s.2
    exact h.stay hon (fun _ hnone => ⟨hchild, hpending hnone⟩) fun p front hs =>
      have ⟨_, hs'⟩ := hs.stop
      ⟨_, hs'⟩
  | reopen =>
    obtain ⟨hon, ⟨-, hchild, hpending, hstands⟩ | ⟨p, -, hfresh, hchild, hstands, -⟩⟩ := reopen_cases s
    · exact h.stay hon (fun _ hnone => ⟨hchild, hpending hnone⟩) fun p front hs =>
        have ⟨_, hs'⟩ := hstands p front hs
        ⟨_, hs'⟩
    · rw [hchild]
      refine ⟨.stands hstands, hon, fun q hq => .inr ?_⟩
      cases hq
      exact hfresh

theorem Tidy.performAll (h : Tidy p? s) (ops : List Op) :
    Leads p? s (lastChild p? ops s) (performAll ops s).2 := by
  induction ops generalizing s p? with
  | nil => exact ⟨h, .refl s.2, fun p hp => .inl hp⟩
  | cons op ops ih =>
    have hfirst := h.perform op
    exact hfirst.trans (ih hfirst.tidy)

/-- Reads, one after the other, give what comes next in the output. -/
theorem Stands.performAll (h : Stands p front s) {ops : List Op} (hreads : ∀ op ∈ ops, op.isRead = true) :
    Stands p (front ++ given (performAll ops s).1) (ProcessConsole.performAll ops s).2 := by
  induction ops generalizing s front with
  | nil => simpa [ProcessConsole.performAll, given] using h
  | cons op ops ih =>
    cases op with
    | read n timeout =>
      have hrest := ih (h.read n timeout).1 fun op hop => hreads op (List.mem_cons_of_mem _ hop)
      rwa [List.append_assoc] at hrest
    | _ => cases hreads _ List.mem_cons_self

theorem performAll_childless (hchild : s.1.child = none) {ops : List Op}
    (hreads : ∀ op ∈ ops, op.isRead = true) :
    given (performAll ops s).1 ++ (performAll ops s).2.1.pending = s.1.pending := by
  induction ops generalizing s with
  | nil => rfl
  | cons op ops ih =>
    cases op with
    | read n timeout =>
      obtain ⟨hgiven, hchild', -⟩ := read_childless hchild n timeout
      have hrest := ih hchild' fun op hop => hreads op (List.mem_cons_of_mem _ hop)
      rw [← hgiven, ← hrest]
      exact List.append_assoc ..
    | _ => cases hreads _ List.mem_cons_self

/-- The console, whose last process was `p?`, gives the output of that process, and of no other. -/
structure Faithful (p? : Option Nat) (s : ProcessConsole × Machine) : Prop where
  /-- The process of the console is the last that it had, if it has not lost that. -/
  child : s.1.child = none ∨ s.1.child = p?
  stands : ∀ p, p? = some p → ∃ front, Stands p front s
  /-- Reads, one after the other, give what comes next in the output. -/
  reads : ∀ p front ops, Stands p front s → (∀ op ∈ ops, op.isRead = true) →
    Stands p (front ++ given (performAll ops s).1) (performAll ops s).2
  /-- A read that came to nothing in time leaves the console where it stood. -/
  idle : ∀ p front n timeout f, Stands p front s →
    ((Op.read n timeout).perform s).1 = .bytes (.error f) →
      Stands p front ((Op.read n timeout).perform s).2
  /-- A read gives no bytes only where the whole output has been given or dropped, and the reader has
  ended. -/
  ended : ∀ p front n timeout, Stands p front s → 0 < n →
    ((Op.read n timeout).perform s).1 = .bytes (.ok []) →
      s.1.child = some p ∧ ∃ c, ((Op.read n timeout).perform s).2.2.channels[p]? = some c ∧
        c.finished = true ∧ c.stream = front
  cleared : ∀ p front, Stands p front s → ∃ dropped, Stands p (front ++ dropped) (Op.clear.perform s).2
  /-- A console that was started again stands at the beginning of the output of a new process. -/
  reopened : (Op.reopen.perform s).1 = .outcome (.ok ()) →
    ∃ p, s.2.channels.length ≤ p ∧ (Op.reopen.perform s).2.1.child = some p ∧
      Stands p [] (Op.reopen.perform s).2 ∧ (Op.reopen.perform s).2.2.channels[p]? = some .fresh
  /-- A console that could not be started again has no process, and stands where it stood or further on. -/
  lost : (∃ e, (Op.reopen.perform s).1 = .outcome (.error e)) →
    (Op.reopen.perform s).2.1.child = none ∧
      ∀ p front, Stands p front s → ∃ dropped, Stands p (front ++ dropped) (Op.reopen.perform s).2
  /-- So it is with a console that was closed. -/
  closed : (Op.close.perform s).2.1.child = none ∧
    ∀ p front, Stands p front s → ∃ dropped, Stands p (front ++ dropped) (Op.close.perform s).2
  /-- Where there is no process, what was pending is read, and nothing else. -/
  silent : s.1.child = none →
    (p? = none → s.1.pending = []) ∧
      (∀ ops, (∀ op ∈ ops, op.isRead = true) →
        given (performAll ops s).1 ++ (performAll ops s).2.1.pending = s.1.pending) ∧
      ∀ n timeout, 0 < n → ((Op.read n timeout).perform s).1 ≠ .bytes (.ok [])
  /-- Later the last process is the same, or one that was started since. -/
  later : ∀ ops p, lastChild p? ops s = some p → p? = some p ∨ s.2.channels.length ≤ p
  /-- What the readers have sent stays, and nothing comes after it when they have ended. -/
  onward : ∀ ops, s.2.Onward (performAll ops s).2.2

theorem Tidy.faithful (h : Tidy p? s) : Faithful p? s where
  child := by
    cases h with
    | untouched hchild => exact .inl hchild
    | stands hstands => exact hstands.child.symm
  stands p hp := by
    cases h with
    | untouched => cases hp
    | stands hstands =>
      cases hp
      exact ⟨_, hstands⟩
  reads _ _ _ hstands hreads := hstands.performAll hreads
  idle p front n timeout f hstands hidle := by
    have hread := (hstands.read n timeout).1
    rw [hidle] at hread
    exact List.append_nil front ▸ hread
  ended _ _ n timeout hstands hn hnone := (hstands.read n timeout).2 hn hnone
  cleared _ _ hstands := hstands.clear
  reopened hok := by
    obtain ⟨-, ⟨⟨e, he⟩, -⟩ | ⟨p, -, hp⟩⟩ := reopen_cases s
    · cases he.symm.trans hok
    · exact ⟨p, hp⟩
  lost herror := by
    obtain ⟨e, he⟩ := herror
    obtain ⟨-, ⟨-, hchild, -, hstands⟩ | ⟨p, hok, -⟩⟩ := reopen_cases s
    · exact ⟨hchild, hstands⟩
    · cases hok.symm.trans he
  closed := ⟨(s.1.stop_childless s.2).1, fun _ _ hstands => hstands.stop⟩
  silent hchild := by
    refine ⟨fun hp => ?_, fun _ hreads => performAll_childless hchild hreads, fun n timeout hn =>
      (read_childless hchild n timeout).2.2.2 hn⟩
    cases h with
    | untouched _ hpending => exact hpending
    | stands => cases hp
  later ops := (h.performAll ops).last
  onward ops := (h.performAll ops).onward

/-- Whatever the readers do and whatever was done with the console since it was first started. -/
theorem performAll_faithful (config : ProcessConfig) (m : Machine) (ops : List Op) :
    Faithful (lastChild none ops (unstarted config, m)) (performAll ops (unstarted config, m)).2 :=
  (Tidy.performAll (s := (unstarted config, m)) (.untouched rfl rfl) ops).tidy.faithful

/-- The reader has ended before the second read; what it had sent is still given. -/
example :
    let m : Machine := { schedule := [{},
      { turns := [(0, .ok [97, 98]), (0, .error ⟨.interrupted, ""⟩), (0, .ok [99]), (0, .ok [])] }] }
    (performAll [.reopen, .read 2 .zero, .read 2 .zero, .read 1 .zero]
      (unstarted { program := "qemu" }, m)).1.map Answer.given = [[], [97, 98], [99], []] := by
  decide

/-- The process cannot be waited for, so it is not started again; what was pending is still given. -/
example :
    let m : Machine := { schedule := [{},
      { turns := [(0, .ok [97, 98])] }, {}, { exit := .error ⟨.other, ""⟩ }] }
    (performAll [.reopen, .read 1 .zero, .reopen, .read 2 .zero, .read 2 .zero]
      (unstarted { program := "qemu" }, m)).1.map Answer.given = [[], [97], [], [98], []] := by
  decide

end BoardBench.ProcessConsole
