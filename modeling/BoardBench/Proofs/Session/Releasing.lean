import BoardBench.Proofs.Session.Logging

/-!
# Releasing a transport

A session closes its transport only while it takes it to be open, which it does from the start, and
again after each opening that succeeds (`Call.settle?`). What a use calls keeps to that
(`Use.Effect.settle`), so a run of uses does (`Use.performAll_settle`). When the session has ended, each
opening of the transport was closed once at most, and the last one was closed
(`Use.performAll_releases_once`).
-/

namespace BoardBench

/-- Whether the call has opened the transport. -/
def Call.opens : Call → Bool
  | .reopen (.ok _) => true
  | _ => false

def Call.closes : Call → Bool
  | .close _ => true
  | _ => false

theorem Call.opens_of_isTraffic {c : Call} (h : c.isTraffic = true) : c.opens = false := by
  cases c <;> first | rfl | cases h

theorem Call.closes_of_isTraffic {c : Call} (h : c.isTraffic = true) : c.closes = false := by
  cases c <;> first | rfl | cases h

/-- Whether the transport has been closed since it was opened last, if it had or had not before the
call. It is not to be closed again. -/
def Call.settle? (closed : Bool) (c : Call) : Option Bool :=
  if c.opens then some false
  else if c.closes then (if closed then none else some true)
  else some closed

namespace Journal

/-- What `Call.settle?` makes of the calls, in order. -/
def settle? (closed : Bool) (j : Journal) : Option Bool := j.foldlM Call.settle? closed

theorem settle?_append_iff {closed closed' : Bool} {j k : Journal} :
    settle? closed (j ++ k) = some closed' ↔
      ∃ between, settle? closed j = some between ∧ settle? between k = some closed' := by
  unfold settle?
  rw [List.foldlM_append]
  exact Option.bind_eq_some_iff

theorem settle?_cons_iff {closed closed' : Bool} {c : Call} {j : Journal} :
    settle? closed (c :: j) = some closed' ↔
      ∃ between, c.settle? closed = some between ∧ settle? between j = some closed' := by
  unfold settle?
  rw [List.foldlM_cons]
  exact Option.bind_eq_some_iff

theorem Traffic.settle? {j : Journal} (h : Traffic j) (closed : Bool) :
    Journal.settle? closed j = some closed := by
  induction j with
  | nil => rfl
  | cons c j ih =>
    have hcall : c.settle? closed = some closed := by
      have hc := h c List.mem_cons_self
      unfold Call.settle?
      rw [Call.opens_of_isTraffic hc, Call.closes_of_isTraffic hc]
      rfl
    exact settle?_cons_iff.2 ⟨closed, hcall, ih fun c' hc => h c' (List.mem_cons_of_mem _ hc)⟩

/-- An opening leaves an open transport. -/
theorem settle?_opened {closed closed' : Bool} {j : Journal} {c : Call} (hc : c.opens = true)
    (h : settle? closed (j ++ [c]) = some closed') : closed' = false := by
  obtain ⟨between, -, hlast⟩ := settle?_append_iff.1 h
  obtain ⟨opened, hopened, hnil⟩ := settle?_cons_iff.1 hlast
  rw [Call.settle?, if_pos hc] at hopened
  cases hopened
  exact (Option.some.inj hnil).symm

/-- Without an opening the transport is closed as often as it goes from open to closed. -/
theorem countP_closes {closed closed' : Bool} {j : Journal} (hopens : ∀ c ∈ j, c.opens = false)
    (h : settle? closed j = some closed') :
    closed.toNat + j.countP Call.closes = closed'.toNat := by
  induction j generalizing closed with
  | nil =>
    cases h
    rfl
  | cons c j ih =>
    obtain ⟨between, hc, hj⟩ := settle?_cons_iff.1 h
    have hrest := ih (fun c' hc' => hopens c' (List.mem_cons_of_mem _ hc')) hj
    rw [Call.settle?, if_neg (ne_true_of_eq_false (hopens c List.mem_cons_self))] at hc
    rw [List.countP_cons, ← hrest]
    by_cases hcloses : c.closes = true
    · rw [if_pos hcloses] at hc ⊢
      cases closed with
      | true => cases hc
      | false =>
        cases hc
        simp only [Bool.toNat_false, Bool.toNat_true]
        omega
    · rw [if_neg hcloses] at hc ⊢
      cases hc
      rfl

end Journal

open Journal

namespace Session

variable {δ : Type} [Bench δ] [Transport δ]

theorem close_closed (s : Session δ) : (close s).2.closed = true := by
  unfold close
  split
  · assumption
  · rfl

theorem drop_eq_perform (s : Session δ) : drop s = (Use.close.perform s).2 := by
  unfold drop
  rw [Use.perform, Act.map_apply]

theorem drop_plain (s : Session (Recorded δ)) : drop s.plain = (drop s).plain :=
  alike_recorded_iff.1 (close_relates Recorded.lockstep _ _ (alike_recorded_iff.2 rfl)).2

namespace Use

theorem performAll_append (front back : List Use) (s : Session δ) :
    (performAll (front ++ back) s).2 = (performAll back (performAll front s).2).2 := by
  induction front generalizing s with
  | nil => rfl
  | cons use front ih =>
    rw [List.cons_append, performAll_cons, performAll_cons]
    exact ih _

theorem Effect.settle {s s' : Session (Recorded δ)} {use : Use} {r : Except Error Yield} {j : Journal}
    (h : Effect s use r j s') : j.settle? s.closed = some s'.closed := by
  cases h with
  | carried hj =>
    rw [hj.closed]
    exact Traffic.settle? hj.traffic s.closed
  | reseated => rfl
  | @reopened _ x _ _ =>
    cases x with
    | ok u => exact congrArg some (Bool.and_false s.closed).symm
    | error e => exact congrArg some (Bool.and_true s.closed).symm
  | released hopen hclose =>
    obtain ⟨d, -, rfl⟩ := Act.zoom_eq_iff.1 hclose
    rw [hopen]
    rfl

/-- What closes the transport is a close of a session that takes it to be open, which flushes its sink
and then makes that call and no other. -/
theorem Effect.closes {s s' : Session (Recorded δ)} {use : Use} {r : Except Error Yield} {j : Journal}
    (h : Effect s use r j s') (hcloses : ∃ c ∈ j, c.closes = true) :
    use = .close ∧ s.closed = false ∧ ∃ x, j = [.close x] ∧
      onDevice Transport.close (flushLog { s with closed := true }) = (x, s') := by
  obtain ⟨c, hc, hclosing⟩ := hcloses
  cases h with
  | carried hj =>
    rw [Call.closes_of_isTraffic (hj.traffic c hc)] at hclosing
    cases hclosing
  | reseated => cases hc
  | reopened _ =>
    obtain rfl := List.mem_singleton.1 hc
    cases hclosing
  | released hopen hclose => exact ⟨rfl, hopen, _, rfl, hclose⟩

theorem performAll_settle (uses : List Use) (s : Session (Recorded δ)) :
    ∃ j, (performAll uses s).2.device.journal = s.device.journal ++ j ∧
      j.settle? s.closed = some (performAll uses s).2.closed := by
  induction uses generalizing s with
  | nil => exact ⟨[], (List.append_nil _).symm, rfl⟩
  | cons use uses ih =>
    obtain ⟨j, hj⟩ := perform_effect use s
    obtain ⟨k, hk, hsettled⟩ := ih (use.perform s).2
    refine ⟨j ++ k, ?_, settle?_append_iff.2 ⟨_, Effect.settle hj, hsettled⟩⟩
    rw [performAll_cons, hk, Effect.journal hj, List.append_assoc]

/-- The calls made on the transport of a session that is used and then dropped: between two openings
that succeed the transport is closed once at most, and after the last of them once. Each time a flush of
the sink of that moment comes before, and whatever the sinks refuse, and whichever there are, all uses
come to the same, with the same calls. -/
theorem performAll_releases_once (uses : List Use) (d : δ) (log : Option LogSink) :
    let s := { ofDevice d with log }
    let run := performAll uses s.recorded
    let calls := (drop run.2).device.journal
    (performAll uses s = (run.1, run.2.plain) ∧ drop run.2.plain = (drop run.2).plain) ∧
    (∀ before between after : Journal, calls = before ++ between ++ after →
      (∀ c ∈ between, c.opens = false) → between.countP Call.closes ≤ 1) ∧
    (∀ before after : Journal, calls = before ++ after →
      (before = [] ∨ ∃ (front : Journal) (c : Call), before = front ++ [c] ∧ c.opens = true) →
      (∀ c ∈ after, c.opens = false) → after.countP Call.closes = 1) ∧
    (drop run.2 = (performAll (uses ++ [.close]) s.recorded).2 ∧
      ∀ (front : List Use) (use : Use) (back : List Use), uses ++ [.close] = front ++ use :: back →
        let t := (performAll front s.recorded).2
        let t' := (use.perform t).2
        ∃ made, t'.device.journal = t.device.journal ++ made ∧
          ((∃ c ∈ made, c.closes = true) →
            use = .close ∧ t'.log = t.log.map (·.flush.2) ∧ ∃ x, made = [.close x] ∧
              onDevice Transport.close (flushLog { t with closed := true }) = (x, t'))) ∧
    ∀ (uses' : List Use) (log' : Option LogSink), List.Forall₂ SameButSink uses uses' →
      let other := performAll uses' { s with log := log' }.recorded
      other.1 = run.1 ∧ (drop other.2).device = (drop run.2).device ∧
        (drop other.2).buffer = (drop run.2).buffer := by
  intro s run calls
  have hend : drop run.2 = (performAll (uses ++ [.close]) s.recorded).2 := by
    rw [performAll_append, drop_eq_perform]
    rfl
  have hsettle : calls.settle? false = some true := by
    obtain ⟨j, hj, hsettled⟩ := performAll_settle (uses ++ [.close]) s.recorded
    rw [← hend] at hj hsettled
    have hclosed : (drop run.2).closed = true := close_closed run.2
    rw [hclosed] at hsettled
    exact (congrArg (Journal.settle? false) hj).trans hsettled
  refine ⟨⟨performAll_plain uses s.recorded, drop_plain run.2⟩, ?between, ?last,
    ⟨hend, ?flushed⟩, ?sinks⟩
  case between =>
    intro before between after hcalls hopens
    rw [hcalls] at hsettle
    obtain ⟨closed', hfront, -⟩ := settle?_append_iff.1 hsettle
    obtain ⟨closed, -, hbetween⟩ := settle?_append_iff.1 hfront
    have hcount := countP_closes hopens hbetween
    have hbound := Bool.toNat_le closed'
    omega
  case last =>
    intro before after hcalls hopened hopens
    rw [hcalls] at hsettle
    obtain ⟨closed, hbefore, hafter⟩ := settle?_append_iff.1 hsettle
    have hopen : closed = false := by
      rcases hopened with rfl | ⟨front, c, rfl, hc⟩
      · cases hbefore
        rfl
      · exact settle?_opened hc hbefore
    have hcount := countP_closes hopens hafter
    rw [hopen, Bool.toNat_false, Bool.toNat_true] at hcount
    omega
  case flushed =>
    intro front use back _ t t'
    obtain ⟨j, hj⟩ := perform_effect use t
    refine ⟨j, Effect.journal hj, fun hcloses => ?_⟩
    obtain ⟨huse, -, x, hmade, hclose⟩ := Effect.closes hj hcloses
    refine ⟨huse, ?_, x, hmade, hclose⟩
    obtain ⟨d', -, ht'⟩ := Act.zoom_eq_iff.1 hclose
    exact congrArg Session.log ht'
  case sinks =>
    intro uses' log' huses other
    obtain ⟨hvals, hrel⟩ := performAll_sameButLog huses
      (s := s.recorded) (t := { s with log := log' }.recorded) ⟨rfl, rfl, rfl⟩
    have hdrop : SameButLog (drop run.2) (drop other.2) := (SameButLog.close _ _ hrel).2
    exact ⟨hvals, hdrop.device, hdrop.buffer⟩

end Use
end Session
end BoardBench
