import BoardBench.Harness.Pipeline

/-!
# The stages of a test as they are run

A run of stages is told as its legs: the stages that were run, each with the trial it began on, what it
came to and the trial it left. Only the stage of the body runs the body or touches the verdict
(`run_eq_onSession`, `runBody_eq`); what a whole run comes to is decided by its last leg
(`drive_eq_conclusion`). If the body is one of the stages, a run breaks off before it, ends with it, or
goes on after it with the verdict that the body has left (`Legs.around`).
-/

namespace BoardBench

variable {δ : Type} [Bench δ] [Transport δ]

namespace Verdict

theorem foldParts_status (v : Verdict) :
    v.foldParts.status = .ok ↔ v.status = .ok ∧ ∀ p ∈ v.parts, p.status ≠ .fail := by
  unfold foldParts
  by_cases hok : v.status = .ok
  · rw [if_neg (not_not_intro hok)]
    have hnone : (((v.parts.filter (·.status = .fail)).map (·.name)).isEmpty = true) ↔
        ∀ p ∈ v.parts, p.status ≠ .fail := by
      simp
    by_cases hfailed : ((v.parts.filter (·.status = .fail)).map (·.name)).isEmpty = true
    · simp only [if_pos hfailed]
      exact ⟨fun _ => ⟨hok, hnone.1 hfailed⟩, fun _ => hok⟩
    · simp only [if_neg hfailed]
      constructor
      · intro h
        cases h
      · rintro ⟨-, h⟩
        exact absurd (hnone.2 h) hfailed
  · rw [if_pos hok]
    exact ⟨fun h => absurd h hok, fun h => h.1⟩

end Verdict

namespace Stage

variable {target : Target δ} {b : Body δ} {timeout : Span}

/-! ## One stage -/

omit [Bench δ] [Transport δ] in
theorem onSession_bind_pure {α β : Type} (x : Act (Session δ) α) (c : β) :
    (do
      let _ ← Trial.onSession x
      return c : Act (Trial δ) β) =
    Trial.onSession do
      let _ ← x
      return c := by
  funext t
  rcases hx : x t.session with ⟨e | a, s⟩
  · have hon : Trial.onSession x t = (.error e, { t with session := s }) :=
      Act.zoom_eq_iff.2 ⟨s, hx, rfl⟩
    rw [Act.bind_error hon]
    exact (Act.zoom_eq_iff.2 ⟨s, Act.bind_error hx, rfl⟩ :
      Trial.onSession (x >>= fun _ => pure c) t = _).symm
  · have hon : Trial.onSession x t = (.ok a, { t with session := s }) :=
      Act.zoom_eq_iff.2 ⟨s, hx, rfl⟩
    rw [Act.bind_ok hon]
    exact (Act.zoom_eq_iff.2 ⟨s, Act.bind_ok hx, rfl⟩ :
      Trial.onSession (x >>= fun _ => pure c) t = _).symm

/-- A stage other than the body acts on the session alone, and goes on unless it fails. -/
theorem run_eq_onSession (target : Target δ) (b : Body δ) (timeout : Span) {stage : Stage}
    (h : stage ≠ .body) :
    ∃ x : Act (Session δ) Bool, stage.run target b timeout = Trial.onSession x ∧
      ∀ s s', x s ≠ (.ok false, s') := by
  have goesOn {α : Type} (x : Act (Session δ) α) (s s' : Session δ) :
      (do
        let _ ← x
        return true : Act (Session δ) Bool) s ≠ (.ok false, s') := by
    intro hx
    obtain ⟨_, _, -, hpure⟩ := Act.bind_ok_iff.1 hx
    cases hpure
  cases stage with
  | reboot options => exact ⟨_, onSession_bind_pure _ _, goesOn _⟩
  | bootloader apps => exact ⟨_, onSession_bind_pure _ _, goesOn _⟩
  | shell prompt bootup poke =>
    refine ⟨_, rfl, fun s s' => ?_⟩
    cases poke with
    | false => exact goesOn _ s s'
    | true =>
      intro hx
      obtain ⟨_, t, -, hx⟩ := Act.bind_ok_iff.1 hx
      exact goesOn _ t s' hx
  | kernelLog command prompt enable =>
    refine ⟨_, rfl, fun s s' hx => ?_⟩
    obtain ⟨_, t, -, hx⟩ := Act.bind_ok_iff.1 hx
    exact goesOn _ t s' hx
  | body => exact absurd rfl h
  | closingPrompt prompt => exact ⟨_, rfl, goesOn _⟩

theorem verdict_of_run {stage : Stage} (h : stage ≠ .body) {t t' : Trial δ} {x : Except Error Bool}
    (hrun : stage.run target b timeout t = (x, t')) : t'.verdict = t.verdict := by
  obtain ⟨y, hy, -⟩ := run_eq_onSession target b timeout h
  rw [hy] at hrun
  obtain ⟨s, -, rfl⟩ := Act.zoom_eq_iff.1 hrun
  rfl

/-- What a body does is of no matter to the other stages. -/
theorem run_of_command_eq {stage : Stage} (h : stage ≠ .body) {b' : Body δ}
    (hcommand : b'.command = b.command) :
    stage.run target b' timeout = stage.run target b timeout := by
  cases stage with
  | body => exact absurd rfl h
  | closingPrompt prompt =>
    unfold run
    rw [hcommand]
  | _ => rfl

omit [Bench δ] [Transport δ] in
/-- The stage of the body runs it once, and goes on if the verdict it leaves is OK and no part failed. -/
theorem runBody_eq (b : Body δ) (timeout : Span) (t : Trial δ) :
    runBody b timeout t =
      match b.run timeout t with
      | (.error e, u) => (.error e, u)
      | (.ok _, u) =>
        (.ok (u.verdict.foldParts.status = .ok), { u with verdict := u.verdict.foldParts }) := by
  rcases hbody : b.run timeout t with ⟨e | _, u⟩
  · exact Act.bind_error hbody
  · exact Act.bind_ok hbody

omit [Bench δ] [Transport δ] in
/-- The body went on if it left a passed verdict of which no part failed. -/
theorem runBody_ok_true_iff {t t' : Trial δ} :
    runBody b timeout t = (.ok true, t') ↔
      ∃ u, b.run timeout t = (.ok (), u) ∧ u.verdict.status = .ok ∧
        (∀ p ∈ u.verdict.parts, p.status ≠ .fail) ∧ t' = { u with verdict := u.verdict.foldParts } := by
  rw [runBody_eq]
  rcases hbody : b.run timeout t with ⟨e | _, u⟩
  · constructor
    · intro h
      cases h
    · rintro ⟨_, h, -⟩
      cases h
  · constructor
    · intro h
      obtain ⟨hok, rfl⟩ := Prod.mk.inj h
      obtain ⟨hstatus, hparts⟩ := (Verdict.foldParts_status _).1 (of_decide_eq_true (Except.ok.inj hok))
      exact ⟨u, rfl, hstatus, hparts, rfl⟩
    · rintro ⟨_, hu, hstatus, hparts, rfl⟩
      obtain ⟨-, rfl⟩ := Prod.mk.inj hu
      have hok := (Verdict.foldParts_status u.verdict).2 ⟨hstatus, hparts⟩
      simp only [hok, decide_true]

omit [Bench δ] [Transport δ] in
/-- The body stops the test if it left it without a passed verdict. -/
theorem status_of_runBody_false {t t' : Trial δ} (h : runBody b timeout t = (.ok false, t')) :
    t'.verdict.status ≠ .ok := by
  rw [runBody_eq] at h
  rcases hbody : b.run timeout t with ⟨e | _, u⟩ <;> rw [hbody] at h
  · cases h
  · obtain ⟨hstop, rfl⟩ := Prod.mk.inj h
    exact of_decide_eq_false (Except.ok.inj hstop)

/-! ## Legs -/

/-- A stage as it was run. -/
structure Leg (δ : Type) where
  stage : Stage
  start : Trial δ
  outcome : Except Error Bool
  finish : Trial δ

/-- Stages run in order, each on what the one before has left, up to the first that fails or stops. -/
inductive Legs (target : Target δ) (b : Body δ) (timeout : Span) :
    List Stage → Trial δ → List (Leg δ) → Prop
  | done {t} : Legs target b timeout [] t []
  | last {stage rest t x t'} : stage.run target b timeout t = (x, t') → x ≠ .ok true →
      Legs target b timeout (stage :: rest) t [⟨stage, t, x, t'⟩]
  | next {stage rest t t' legs} : stage.run target b timeout t = (.ok true, t') →
      Legs target b timeout rest t' legs →
      Legs target b timeout (stage :: rest) t (⟨stage, t, .ok true, t'⟩ :: legs)

theorem exists_legs (target : Target δ) (b : Body δ) (timeout : Span) (stages : List Stage)
    (t : Trial δ) : ∃ legs, Legs target b timeout stages t legs := by
  induction stages generalizing t with
  | nil => exact ⟨[], .done⟩
  | cons stage rest ih =>
    rcases hrun : stage.run target b timeout t with ⟨x, t'⟩
    by_cases hx : x = .ok true
    · subst hx
      obtain ⟨legs, hlegs⟩ := ih t'
      exact ⟨_, .next hrun hlegs⟩
    · exact ⟨_, .last hrun hx⟩

/-- What a run of stages comes to that ended with this leg. -/
def Leg.conclusion (l : Leg δ) : Except Error Verdict × Session δ :=
  match l.outcome with
  | .ok _ => (.ok l.finish.verdict, l.finish.session)
  | .error e =>
    if e.isFatal then (.error e, l.finish.session)
    else
      (.ok (l.finish.verdict.fail l.stage.failureStage e.message),
        { l.finish.session with
          device := Bench.note .info ("Stage " ++ l.stage.name ++ " failed: " ++ e.message)
            l.finish.session.device })

/-- What a run of stages that began on `t` comes to, by its last leg. -/
def conclusion (t : Trial δ) (legs : List (Leg δ)) : Except Error Verdict × Session δ :=
  match legs.getLast? with
  | none => (.ok t.verdict, t.session)
  | some l => l.conclusion

namespace Legs

variable {stages : List Stage} {t : Trial δ} {legs : List (Leg δ)}

theorem run_eq (h : Legs target b timeout stages t legs) :
    ∀ l ∈ legs, l.stage.run target b timeout l.start = (l.outcome, l.finish) := by
  induction h with
  | done =>
    intro l hl
    exact absurd hl List.not_mem_nil
  | last hrun _ =>
    intro l hl
    obtain rfl := List.mem_singleton.1 hl
    exact hrun
  | next hrun _ ih =>
    intro l hl
    rcases List.mem_cons.1 hl with rfl | hl
    · exact hrun
    · exact ih l hl

theorem stages_prefix (h : Legs target b timeout stages t legs) : legs.map (·.stage) <+: stages := by
  induction h with
  | done => exact List.nil_prefix
  | last _ _ => exact List.cons_prefix_cons.2 ⟨rfl, List.nil_prefix⟩
  | next _ _ ih => exact List.cons_prefix_cons.2 ⟨rfl, ih⟩

/-- All legs but the last went on. -/
theorem outcome_of_front (h : Legs target b timeout stages t legs) {front back : List (Leg δ)}
    {l : Leg δ} (hlegs : legs = front ++ l :: back) : ∀ q ∈ front, q.outcome = .ok true := by
  induction h generalizing front with
  | done => simp at hlegs
  | last _ _ =>
    cases front with
    | nil =>
      intro q hq
      exact absurd hq List.not_mem_nil
    | cons q front => simp at hlegs
  | next _ _ ih =>
    cases front with
    | nil =>
      intro q hq
      exact absurd hq List.not_mem_nil
    | cons q front =>
      obtain ⟨rfl, hrest⟩ := List.cons.inj hlegs
      intro q' hq'
      rcases List.mem_cons.1 hq' with rfl | hq'
      · rfl
      · exact ih hrest q' hq'

/-- Stages are left out only after one that failed or stopped the test. -/
theorem stages_eq_of_last (h : Legs target b timeout stages t legs)
    (hlast : ∀ l, legs.getLast? = some l → l.outcome = .ok true) :
    legs.map (·.stage) = stages := by
  induction h with
  | done => rfl
  | last _ hx => exact absurd (hlast _ rfl) hx
  | @next stage rest t t' legs _ hrest ih =>
    refine congrArg (stage :: ·) (ih fun l hl => hlast l ?_)
    rw [List.getLast?_cons, hl]
    rfl

/-- Each leg begins on what the one before has left. -/
theorem start_eq (h : Legs target b timeout stages t legs) {front back : List (Leg δ)} {l : Leg δ}
    (hlegs : legs = front ++ l :: back) : l.start = (front.getLast?.map (·.finish)).getD t := by
  induction h generalizing front with
  | done => simp at hlegs
  | last _ _ =>
    cases front with
    | nil =>
      obtain ⟨rfl, -⟩ := List.cons.inj hlegs
      rfl
    | cons q front => simp at hlegs
  | next _ _ ih =>
    cases front with
    | nil =>
      obtain ⟨rfl, -⟩ := List.cons.inj hlegs
      rfl
    | cons q front =>
      obtain ⟨rfl, hrest⟩ := List.cons.inj hlegs
      rw [ih hrest, List.getLast?_cons]
      cases front.getLast? <;> rfl

theorem runAll_eq (h : Legs target b timeout stages t legs) :
    ((runAll target b timeout stages t).1.map fun _ => (runAll target b timeout stages t).2.verdict,
      (runAll target b timeout stages t).2.session) = conclusion t legs := by
  induction h with
  | done => rfl
  | @last stage rest t x t' hrun hx =>
    rcases x with e | _ | _
    · by_cases hfatal : e.isFatal = true
      · simp only [runAll, hrun, conclusion, Leg.conclusion, List.getLast?_singleton, if_pos hfatal]
        rfl
      · simp only [runAll, hrun, conclusion, Leg.conclusion, List.getLast?_singleton, if_neg hfatal]
        rfl
    · simp only [runAll, hrun, conclusion, Leg.conclusion, List.getLast?_singleton]
      rfl
    · exact absurd rfl hx
  | next hrun hrest ih =>
    simp only [runAll, hrun]
    rw [ih]
    cases hrest with
    | done => rfl
    | _ =>
      unfold conclusion
      rw [List.getLast?_cons_cons, List.getLast?_cons]

/-- The verdict stays as it is while the body is not run. -/
theorem verdict_of_front (h : Legs target b timeout stages t legs) {front back : List (Leg δ)}
    (hlegs : legs = front ++ back) (hbody : ∀ q ∈ front, q.stage ≠ .body) :
    ∀ q ∈ front, q.finish.verdict = t.verdict := by
  induction h generalizing front with
  | done =>
    obtain ⟨rfl, -⟩ := List.append_eq_nil_iff.1 hlegs.symm
    intro q hq
    exact absurd hq List.not_mem_nil
  | last hrun _ =>
    intro q hq
    have hmem := hlegs ▸ List.mem_append_left back hq
    obtain rfl := List.mem_singleton.1 hmem
    exact verdict_of_run (hbody _ hq) hrun
  | next hrun _ ih =>
    cases front with
    | nil =>
      intro q hq
      exact absurd hq List.not_mem_nil
    | cons p front =>
      obtain ⟨rfl, hrest⟩ := List.cons.inj hlegs
      have hfirst := verdict_of_run (hbody _ List.mem_cons_self) hrun
      intro q hq
      rcases List.mem_cons.1 hq with rfl | hq
      · exact hfirst
      · rw [ih hrest (fun q hq => hbody q (List.mem_cons_of_mem _ hq)) q hq, hfirst]

/-- A run breaks off before the body, ends with it, or goes on after it. -/
theorem around {front back : List Stage} (h : Legs target b timeout (front ++ .body :: back) t legs)
    (hfront : .body ∉ front) :
    (Legs target b timeout front t legs ∧ ∃ l e, legs.getLast? = some l ∧ l.outcome = .error e) ∨
      ∃ pre l post, legs = pre ++ l :: post ∧ pre.map (·.stage) = front ∧ l.stage = .body ∧
        (∀ q ∈ pre, q.outcome = .ok true) ∧
        (l.outcome ≠ .ok true ∧ post = [] ∨
          l.outcome = .ok true ∧ Legs target b timeout back l.finish post) := by
  induction front generalizing t legs with
  | nil =>
    refine .inr ?_
    cases h with
    | last hrun hx =>
      exact ⟨[], _, [], rfl, rfl, rfl, fun q hq => absurd hq List.not_mem_nil, .inl ⟨hx, rfl⟩⟩
    | next hrun hrest =>
      exact ⟨[], _, _, rfl, rfl, rfl, fun q hq => absurd hq List.not_mem_nil, .inr ⟨rfl, hrest⟩⟩
  | cons stage front ih =>
    have hstage : stage ≠ .body := fun hs => hfront (hs ▸ List.mem_cons_self)
    cases h with
    | @last _ _ _ x t' hrun hx =>
      obtain ⟨y, hy, hgoesOn⟩ := run_eq_onSession target b timeout hstage
      rcases x with e | _ | _
      · exact .inl ⟨.last hrun hx, _, e, rfl, rfl⟩
      · rw [hy] at hrun
        obtain ⟨s, hs, -⟩ := Act.zoom_eq_iff.1 hrun
        exact absurd hs (hgoesOn _ _)
      · exact absurd rfl hx
    | next hrun hrest =>
      rcases ih hrest fun hmem => hfront (List.mem_cons_of_mem _ hmem) with
        ⟨hlegs, l, e, hl, he⟩ | ⟨pre, l, post, rfl, rfl, hl, hpre, hpost⟩
      · refine .inl ⟨.next hrun hlegs, l, e, ?_, he⟩
        rw [List.getLast?_cons, hl]
        rfl
      · refine .inr ⟨_ :: pre, l, post, rfl, rfl, hl, fun q hq => ?_, hpost⟩
        rcases List.mem_cons.1 hq with rfl | hq
        · rfl
        · exact hpre q hq

end Legs

theorem drive_eq_conclusion {stages : List Stage} {s : Session δ} {legs : List (Leg δ)}
    (h : Legs target b timeout stages ⟨s, {}⟩ legs) :
    drive target b timeout stages s = conclusion ⟨s, {}⟩ legs := h.runAll_eq

end Stage
end BoardBench
