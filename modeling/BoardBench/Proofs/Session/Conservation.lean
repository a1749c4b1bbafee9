import BoardBench.Proofs.Session.Recording

/-!
# No byte is lost

Calls on a session in any order, each made whatever came of the one before (`performAll`). A call moves
bytes from the stream to the caller and does nothing else with them (`perform_consumes`), so over any
run the bytes handed out and those still buffered are the bytes buffered at first and those that came
in (`performAll_conserves`).
-/

namespace BoardBench.Session

open Journal

/-- A call on a session. -/
inductive Op where
  | send (bytes : Bytes)
  | sendLine (line : Bytes)
  | expect (ps : List Pattern) (timeout : Span)
  | expectExact (bytes : Bytes) (timeout : Span)
  | readRaw (max : Nat) (timeout : Span)
  | setLog (sink : Option LogSink)

/-- What a call that succeeds gives back. -/
inductive Yield where
  | nothing
  | found (m : Match)
  | raw (bytes : Bytes)

namespace Op

/-- What the call waits for, and how long. -/
def awaits : Op → Option (List Pattern × Span)
  | expect ps timeout => some (ps, timeout)
  | expectExact bytes timeout => some ([.literal bytes], timeout)
  | _ => none

variable {δ : Type} [Bench δ] [Transport δ]

def perform : Op → Act (Session δ) Yield
  | send bytes => (fun _ => .nothing) <$> Session.send bytes
  | sendLine line => (fun _ => .nothing) <$> Session.sendLine line
  | expect ps timeout => .found <$> Session.expect ps timeout
  | expectExact bytes timeout => .found <$> Session.expectExact bytes timeout
  | readRaw max timeout => .raw <$> Session.readRaw max timeout
  | setLog sink => (fun _ => .nothing) <$> Session.setLog sink

/-- Makes the calls in order, each whatever came of those before. -/
def performAll : List Op → Session δ → List (Except Error Yield) × Session δ
  | [], s => ([], s)
  | op :: ops, s =>
    let (r, t) := op.perform s
    let (rs, u) := performAll ops t
    (r :: rs, u)

theorem performAll_cons (op : Op) (ops : List Op) (s : Session δ) :
    performAll (op :: ops) s = ((op.perform s).1 :: (performAll ops (op.perform s).2).1,
      (performAll ops (op.perform s).2).2) := rfl

theorem performAll_append (ops more : List Op) (s : Session δ) :
    performAll (ops ++ more) s = ((performAll ops s).1 ++ (performAll more (performAll ops s).2).1,
      (performAll more (performAll ops s).2).2) := by
  induction ops generalizing s with
  | nil => rfl
  | cons op ops ih => rw [List.cons_append, performAll_cons, ih, performAll_cons, List.cons_append]

end Op

/-- The bytes that a call hands to the caller. -/
def handedBy : Except Error Yield → Bytes
  | .ok (.found m) => m.before ++ m.matched
  | .ok (.raw bytes) => bytes
  | _ => []

def handed (rs : List (Except Error Yield)) : Bytes := rs.flatMap handedBy

theorem handed_cons (r : Except Error Yield) (rs : List (Except Error Yield)) :
    handed (r :: rs) = handedBy r ++ handed rs := by
  simp [handed]

variable {δ : Type} [Bench δ] [Transport δ]

/-! ## One call -/

theorem readRaw_consumes (max : Nat) (timeout : Span) (s : Session (Recorded δ)) :
    ∃ j, s.Consumes j (handedBy ((readRaw max timeout s).1.map .raw)) (readRaw max timeout s).2 := by
  -- the front of the buffer goes to the caller, the rest of it stays
  have take (t : Session (Recorded δ)) :
      t.Consumes [] (t.buffer.take max) { t with buffer := t.buffer.drop max } :=
    ⟨by simp, by simp⟩
  by_cases hempty : s.buffer.isEmpty = true
  · rcases hfill : fill timeout s with ⟨e | f, t⟩ <;> obtain ⟨j, hj, -⟩ := fill_spec hfill
    · have hraw : readRaw max timeout s = (.error e, t) := by
        unfold readRaw
        rw [Act.state_bind, if_pos hempty, Act.bind_error hfill]
      rw [hraw]
      exact ⟨j, hj⟩
    · have hraw : readRaw max timeout s =
          (.ok (t.buffer.take max), { t with buffer := t.buffer.drop max }) := by
        unfold readRaw
        rw [Act.state_bind, if_pos hempty, Act.bind_ok hfill]
        rfl
      rw [hraw]
      exact ⟨_, hj.trans (take t)⟩
  · have hraw : readRaw max timeout s =
        (.ok (s.buffer.take max), { s with buffer := s.buffer.drop max }) := by
      unfold readRaw
      rw [Act.state_bind, if_neg hempty]
      rfl
    rw [hraw]
    exact ⟨[], take s⟩

namespace Op

theorem perform_consumes (op : Op) (s : Session (Recorded δ)) :
    ∃ j, s.Consumes j (handedBy (op.perform s).1) (op.perform s).2 ∧
      ∀ e ps timeout, (op.perform s).1 = .error e → op.awaits = some (ps, timeout) →
        Unmet ps timeout j (op.perform s).2.buffer e := by
  have sent (bytes : Bytes) : ∃ j, s.Consumes j [] (Session.send bytes s).2 := by
    rcases hx : Session.send bytes s with ⟨x, t⟩
    obtain ⟨j, hj, -⟩ := send_spec hx
    exact ⟨j, hj.toConsumes⟩
  have nothing (x : Except Error Unit) : handedBy (x.map fun _ => .nothing) = [] := by
    cases x <;> rfl
  have wait (ps : List Pattern) (timeout : Span) : ∃ j,
      s.Consumes j (handedBy ((Session.expect ps timeout s).1.map .found))
        (Session.expect ps timeout s).2 ∧
      ∀ e, (Session.expect ps timeout s).1.map Yield.found = .error e →
        Unmet ps timeout j (Session.expect ps timeout s).2.buffer e := by
    rcases hx : Session.expect ps timeout s with ⟨x, t⟩
    obtain ⟨j, -, hj⟩ := expect_spec hx
    cases hj with
    | met hc _ => exact ⟨j, hc, nofun⟩
    | unmet hc _ hu => exact ⟨j, hc, fun e he => Except.error.inj he ▸ hu⟩
  cases op with
  | send bytes =>
    obtain ⟨j, hj⟩ := sent bytes
    rw [perform, Act.map_apply, nothing]
    exact ⟨j, hj, nofun⟩
  | sendLine line =>
    obtain ⟨j, hj⟩ := sent (line ++ lineEnd)
    rw [perform, Act.map_apply, nothing]
    exact ⟨j, hj, nofun⟩
  | expect ps timeout =>
    obtain ⟨j, hj, hu⟩ := wait ps timeout
    rw [perform, Act.map_apply]
    exact ⟨j, hj, fun e _ _ he ha => by cases ha; exact hu e he⟩
  | expectExact bytes timeout =>
    obtain ⟨j, hj, hu⟩ := wait [.literal bytes] timeout
    rw [perform, Act.map_apply]
    exact ⟨j, hj, fun e _ _ he ha => by cases ha; exact hu e he⟩
  | readRaw max timeout =>
    obtain ⟨j, hj⟩ := readRaw_consumes max timeout s
    rw [perform, Act.map_apply]
    exact ⟨j, hj, nofun⟩
  | setLog sink =>
    rw [perform, Act.map_apply, nothing]
    exact ⟨[], ⟨(List.append_nil _).symm, List.append_nil _⟩, nofun⟩

variable {ε : Type} [Bench ε] [Transport ε] {D : δ → ε → Prop}

theorem perform_relates (hD : Transport.InStep D) (op : Op) :
    Act.Relates (Alike D) op.perform op.perform := by
  cases op with
  | send bytes => exact (send_relates hD bytes).map _
  | sendLine line => exact (send_relates hD _).map _
  | expect ps timeout => exact (expect_relates hD ps timeout).map _
  | expectExact bytes timeout => exact (expect_relates hD _ timeout).map _
  | readRaw max timeout => exact (readRaw_relates hD max timeout).map _
  | setLog sink =>
    exact (Act.Relates.change fun s t hst => ⟨hst.device, hst.buffer, rfl, hst.closed⟩).map _

/-! ## A run -/

theorem performAll_plain (ops : List Op) (s : Session (Recorded δ)) :
    performAll ops s.plain = ((performAll ops s).1, (performAll ops s).2.plain) := by
  have step (op : Op) : Act.Mirrors plain (op.perform (δ := Recorded δ)) op.perform :=
    (perform_relates Recorded.inStep op).mirrors fun _ _ => alike_recorded_iff
  induction ops generalizing s with
  | nil => rfl
  | cons op ops ih => rw [performAll_cons, performAll_cons, step op s, ih]

theorem performAll_consumes (ops : List Op) (s : Session (Recorded δ)) :
    ∃ j, s.Consumes j (handed (performAll ops s).1) (performAll ops s).2 := by
  induction ops generalizing s with
  | nil => exact ⟨[], .refl s⟩
  | cons op ops ih =>
    obtain ⟨j, hj, -⟩ := perform_consumes op s
    obtain ⟨k, hk⟩ := ih (op.perform s).2
    rw [performAll_cons, handed_cons]
    exact ⟨j ++ k, hj.trans hk⟩

/-- What was handed out and what is buffered is what was buffered at first and what came in. A call
that fails hands out nothing and leaves what it read in the buffer, and if it is a wait, then it failed
because time was up or the stream had ended, with the text of that buffer, or because the port failed. -/
theorem performAll_conserves (ops : List Op) (s : Session δ) :
    let run := performAll ops s.recorded
    performAll ops s = (run.1, run.2.plain) ∧
    s.buffer ++ received run.2.device.journal = handed run.1 ++ run.2.buffer ∧
    ∀ front op back e, ops = front ++ op :: back →
      let t := (performAll front s.recorded).2
      (op.perform t).1 = .error e →
        run.1[front.length]? = some (.error e) ∧
        ∃ j, (op.perform t).2.device.journal = t.device.journal ++ j ∧
          (op.perform t).2.buffer = t.buffer ++ received j ∧
          ∀ ps timeout, op.awaits = some (ps, timeout) →
            Unmet ps timeout j (op.perform t).2.buffer e := by
  intro run
  refine ⟨performAll_plain ops s.recorded, ?_, ?_⟩
  · obtain ⟨j, hj⟩ := performAll_consumes ops s.recorded
    have hjournal : run.2.device.journal = j := hj.journal
    rw [hjournal]
    exact hj.stream
  · intro front op back e hops t he
    have hlength : (performAll front s.recorded).1.length = front.length := by
      generalize s.recorded = s
      clear run hops t he
      induction front generalizing s with
      | nil => rfl
      | cons op front ih => rw [performAll_cons, List.length_cons, ih, List.length_cons]
    obtain ⟨j, hj, hu⟩ := perform_consumes op t
    rw [he] at hj
    refine ⟨?_, j, hj.journal, (Consumes.nil_iff.1 hj).2, fun ps timeout => hu e ps timeout he⟩
    show (performAll ops s.recorded).1[front.length]? = _
    rw [hops, performAll_append, ← hlength, List.getElem?_append_right (Nat.le_refl _),
      Nat.sub_self, performAll_cons]
    exact congrArg some he

end Op
end BoardBench.Session
