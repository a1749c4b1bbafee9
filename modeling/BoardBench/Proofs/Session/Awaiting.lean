import BoardBench.Proofs.Pattern.Occurring
import BoardBench.Proofs.Regex.Leftmost
import BoardBench.Proofs.Session.Timing
import BoardBench.Proofs.Sim.Timing
import Mathlib

/-!
# What is awaited

An expectation calls on its device only while none of the patterns occurs in what was received
(`expectSince_calls`). So it finds the match that begins first as soon as there is one, and where it
fails there is none: `expect_timely` says so, and that it does not go on for longer than it may.
-/

namespace BoardBench.Session

open Journal Pattern

variable {δ : Type} [Bench δ] [Transport δ] {Matches : Regex → Bytes → Regex.Captures → Prop}
  {ps : List Pattern} {timeout : Span} {start : Nat}

/-- Why an expectation failed that began at `start`, made the calls `j` and was over at `now`. -/
inductive Cause (ps : List Pattern) (start : Nat) (timeout : Span) (j : Journal) (buffer : Bytes)
    (now : Nat) : Error → Prop
  | silent : timeout.nanos ≤ now - start → Cause ps start timeout j buffer now
      (.streamTimeout (describeAll ps) timeout (Text.lossy buffer))
  | ended {front} : j = front ++ [.read (.ok [])] → Cause ps start timeout j buffer now
      (.endOfStream (describeAll ps) (Text.lossy buffer))
  | failed {e : Error} : FailsWith j e → Cause ps start timeout j buffer now e

theorem Cause.append {j : Journal} {buffer : Bytes} {now : Nat} {e : Error}
    (h : Cause ps start timeout j buffer now e) (k : Journal) :
    Cause ps start timeout (k ++ j) buffer now e := by
  cases h with
  | silent htime => exact .silent htime
  | ended hj => exact .ended (by rw [hj, List.append_assoc])
  | failed hf => exact .failed (hf.append k)

/-- Each of the calls was made when none of the patterns occurred in what had been received. -/
def Needed (Matches : Regex → Bytes → Regex.Captures → Prop) (ps : List Pattern) (buffer : Bytes)
    (j : Journal) : Prop :=
  ∀ front c back, j = front ++ c :: back → Absent Matches ps (buffer ++ received front)

theorem Needed.nil (ps : List Pattern) (buffer : Bytes) : Needed Matches ps buffer [] := by
  intro front c back h
  cases front <;> cases h

theorem Needed.append {buffer : Bytes} {j k : Journal} (hj : Needed Matches ps buffer j)
    (hk : Needed Matches ps (buffer ++ received j) k) : Needed Matches ps buffer (j ++ k) := by
  intro front c back h
  rcases List.append_eq_append_iff.1 h with ⟨more, rfl, hmore⟩ | ⟨more, rfl, hmore⟩
  · rw [received_append, ← List.append_assoc]
    exact hk more c back hmore
  · cases more with
    | nil =>
      obtain rfl : c :: back = k := hmore
      rw [List.append_nil] at hk
      have := hk [] c back rfl
      rwa [received_nil, List.append_nil] at this
    | cons c' more =>
      obtain ⟨rfl, -⟩ := List.cons.inj hmore
      exact hj front c more rfl

theorem Needed.eq_nil {buffer : Bytes} {j : Journal} (h : Needed Matches ps buffer j)
    (hfound : ¬ Absent Matches ps buffer) : j = [] := by
  cases j with
  | nil => rfl
  | cons c back =>
    have habsent := h [] c back rfl
    rw [received_nil, List.append_nil] at habsent
    exact absurd habsent hfound

/-- The two calls of a read, when nothing occurred before it. -/
theorem fill_needed {wait : Span} {s s' : Session (Recorded δ)} {x : Except Error Fill}
    (h : fill wait s = (x, s')) (habsent : Absent Matches ps s.buffer) :
    ∃ j, s'.device.journal = s.device.journal ++ j ∧ s'.buffer = s.buffer ++ received j ∧
      Needed Matches ps s.buffer j ∧ (x = .ok .ended → ∃ front, j = front ++ [.read (.ok [])]) ∧
      (∀ e, x = .error e → FailsWith j e) := by
  have hbefore {j : Journal} (hnil : received j.dropLast = []) : Needed Matches ps s.buffer j := by
    intro front c back hj
    have hfront : received front <+: received j.dropLast := by
      rw [hj, List.dropLast_append_cons, received_append]
      exact List.prefix_append _ _
    rw [hnil, List.prefix_nil] at hfront
    rwa [hfront, List.append_nil]
  obtain ⟨t, ⟨e, rfl, hjournal, hbuffer⟩ | ⟨y, rfl, hjournal, hbuffer⟩⟩ := fill_calls h
  · refine ⟨_, hjournal, hbuffer.trans (List.append_nil _).symm, hbefore rfl, nofun, fun e' he => ?_⟩
    cases he
    exact ⟨[], .inl ⟨t, rfl⟩⟩
  · refine ⟨_, hjournal, ?_, hbefore rfl, fun hend => ?_, fun e he => ?_⟩
    · rw [hbuffer, received_cons, received_cons, received_nil, List.append_nil]
      rfl
    · rw [filled_eq_ended hend]
      exact ⟨[_], rfl⟩
    · obtain ⟨f, rfl, rfl⟩ := filled_eq_error he
      exact ⟨[_], .inr ⟨f, rfl, rfl⟩⟩

theorem expectSince_calls (hps : Leftmost Matches ps) (start : Nat) (timeout : Span)
    (s : Session (Recorded δ)) :
    ∃ j, (expectSince start ps timeout s).2.device.journal = s.device.journal ++ j ∧
      Needed Matches ps s.buffer j ∧ ∀ e, (expectSince start ps timeout s).1 = .error e →
        Cause ps start timeout j (expectSince start ps timeout s).2.buffer
          (expectSince start ps timeout s).2.now e := by
  refine expectSince_rounds (fun s r => ∃ j, r.2.device.journal = s.device.journal ++ j ∧
    Needed Matches ps s.buffer j ∧ ∀ e, r.1 = .error e → Cause ps start timeout j r.2.buffer r.2.now e)
    ?met ?late ?failed ?ended ?next s
  case met =>
    intro s m rest _
    exact ⟨[], (List.append_nil _).symm, .nil _ _, nofun⟩
  case late =>
    intro s _ hlate
    refine ⟨[], (List.append_nil _).symm, .nil _ _, fun e he => ?_⟩
    cases he
    exact .silent hlate
  case failed =>
    intro s wait e t hn _ hfill
    obtain ⟨j, hj, -, hneeded, -, hfailed⟩ := fill_needed hfill ((split?_eq_none_iff_absent hps).1 hn)
    exact ⟨j, hj, hneeded, fun e' he => .failed (Except.error.inj he ▸ hfailed e rfl)⟩
  case ended =>
    intro s wait t hn _ hfill
    obtain ⟨j, hj, -, hneeded, hend, -⟩ := fill_needed hfill ((split?_eq_none_iff_absent hps).1 hn)
    obtain ⟨front, hfront⟩ := hend rfl
    refine ⟨j, hj, hneeded, fun e he => ?_⟩
    cases he
    exact .ended hfront
  case next =>
    rintro s wait f t r hn _ hfill _ ⟨k, hk, hlater, hcause⟩
    obtain ⟨j, hj, hbuffer, hneeded, -⟩ := fill_needed hfill ((split?_eq_none_iff_absent hps).1 hn)
    exact ⟨j ++ k, by rw [hk, hj, List.append_assoc], hneeded.append (hbuffer ▸ hlater),
      fun e he => (hcause e he).append j⟩

section

variable {s s' : Session (Recorded δ)} {j : Journal}

omit [Bench δ] [Transport δ]

theorem Expects.picks (hps : Leftmost Matches ps) {m : Match} (h : Expects ps timeout s j s' (.ok m)) :
    Picks Matches ps (s.buffer ++ received j) m s'.buffer := by
  cases h with
  | met _ hsplit => exact split?_picks hps hsplit

theorem Expects.absent (hps : Leftmost Matches ps) {e : Error} (h : Expects ps timeout s j s' (.error e)) :
    s'.buffer = s.buffer ++ received j ∧ Absent Matches ps s'.buffer := by
  cases h with
  | unmet hc hsplit _ => exact ⟨(Consumes.nil_iff.1 hc).2, (split?_eq_none_iff_absent hps).1 hsplit⟩

end

/-- What comes of an expectation on `s` that makes the calls `j` and leaves `t`. -/
structure Timely (Matches : Regex → Bytes → Regex.Captures → Prop) (ps : List Pattern) (timeout : Span)
    (s : Session δ) (j : Journal) (t : Session δ) (x : Except Error Match) : Prop where
  needed : Needed Matches ps s.buffer j
  /-- What is buffered already is found without a call, whatever the timeout. -/
  buffered : ¬ Absent Matches ps s.buffer → j = [] ∧ ∃ m, x = .ok m
  met : ∀ m, x = .ok m → Picks Matches ps (s.buffer ++ received j) m t.buffer
  unmet : ∀ e, x = .error e → t.buffer = s.buffer ++ received j ∧ Absent Matches ps t.buffer ∧
    Cause ps s.now timeout j t.buffer t.now e
  inTime : t.now ≤ s.now + timeout.nanos + shortestWait.nanos

/-- An expectation finds the match that begins first as soon as one is received, and if it fails then
none was received and the time was up or the stream was over, or the port failed. It is over a
millisecond after its time at the latest, if reads end in time. All that is assumed of the expressions is
that the library finds a match of each that begins first. -/
theorem expect_timely {P : δ → Prop} (hP : Transport.Punctual P) {ps : List Pattern}
    (hps : Leftmost Matches ps) (timeout : Span) (s : Session δ) (hs : P s.device) :
    let run := expect ps timeout s.recorded
    expect ps timeout s = (run.1, run.2.plain) ∧
      Timely Matches ps timeout s run.2.device.journal run.2.plain run.1 := by
  intro run
  have hplain : expect ps timeout s = (run.1, run.2.plain) :=
    (expect_relates Recorded.inStep ps timeout).mirrors (fun _ _ => alike_recorded_iff) s.recorded
  obtain ⟨j, hj, hneeded, hcause⟩ := expectSince_calls hps s.now timeout s.recorded
  have hjournal : run.2.device.journal = j := hj
  obtain ⟨k, -, hexpects⟩ := expect_spec (show expect ps timeout s.recorded = (run.1, run.2) from rfl)
  obtain ⟨_, hconsumes⟩ := hexpects.consumes
  obtain rfl : j = k := hjournal.symm.trans hconsumes.journal
  rw [hjournal]
  refine ⟨hplain, hneeded, fun hfound => ?_, fun m hm => ?_, fun e he => ?_, ?_⟩
  · have hnil := hneeded.eq_nil hfound
    refine ⟨hnil, ?_⟩
    cases hx : run.1 with
    | ok m => exact ⟨m, rfl⟩
    | error e =>
      rw [hx, hnil] at hexpects
      obtain ⟨hbuffer, habsent⟩ := hexpects.absent hps
      rw [hbuffer, received_nil, List.append_nil] at habsent
      exact absurd habsent hfound
  · rw [hm] at hexpects
    exact hexpects.picks hps
  · rw [he] at hexpects
    exact ⟨(hexpects.absent hps).1, (hexpects.absent hps).2, hcause e he⟩
  · refine now_expectSince_le hP.recorded (s := s.recorded) hs ?_
    exact Nat.le_trans (Nat.le_add_right _ _) (Nat.le_add_right _ _)

/-- A board that prints the rest of its report thirty milliseconds later. -/
def reportBench : Sim.World where
  board := { incoming := [.data (Bytes.ofText "blo")],
             delayed := [(30000000, .data (Bytes.ofText "ck 0/2,"))] }

/-- The number of blocks alone, or a whole report. -/
def reportPatterns : List Pattern :=
  [.text "0/2", .regex Regex.library.blockReport]

theorem leftmost_reportPatterns : Leftmost Regex.library.Matches reportPatterns := by
  intro re hre
  obtain h | h := List.mem_pair.1 hre
  · cases h
  · cases h
    exact Regex.library_leftmost Regex.library.compile_blockReport

theorem expect_timely_report :
    let s := ofDevice reportBench
    let run := expect reportPatterns (.ofMillis 100) s.recorded
    reportBench.link = .board ∧ Leftmost Regex.library.Matches reportPatterns ∧
      (expect reportPatterns (.ofMillis 100) s).1 =
        .ok ⟨1, [("index", "0"), ("count", "2")], [], Bytes.ofText "block 0/2,"⟩ ∧
      Timely Regex.library.Matches reportPatterns (.ofMillis 100) s run.2.device.journal run.2.plain
        run.1 := by
  refine ⟨rfl, leftmost_reportPatterns, ?_,
    (expect_timely Sim.World.punctual leftmost_reportPatterns _ _ rfl).2⟩
  cbv

end BoardBench.Session
