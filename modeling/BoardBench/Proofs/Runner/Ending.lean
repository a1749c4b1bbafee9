import BoardBench.Failure
import BoardBench.Proofs.Runner.Escaping

/-!
# How a run ends

A run succeeds exactly if no moment spoils it (`Accounts.isSuccess_iff`). On a transport that fails as
machines do it is ended only by the request to stop, or by an error that has no exit status of its own
(`Accounts.escaping`), so that its exit status says which of the three it was
(`Accounts.exitStatus_iff`).
-/

namespace BoardBench

open Transport

/-- The error has no exit status of its own. -/
def Error.Plain (e : Error) : Prop := (Failure.ofError e).exitCode = 1

namespace Error

theorem IsReboot.plain {e : Error} (h : e.IsReboot) : e.Plain := by
  obtain ⟨_, rfl⟩ := h
  rfl

theorem IsFlash.plain {e : Error} (h : e.IsFlash) : e.Plain := by
  obtain ⟨_, _, rfl⟩ := h
  rfl

theorem OfMachine.plain {e : Error} (h : e.OfMachine) : e.Plain := by
  cases h <;> rfl

end Error

namespace Run

/-! ## What spoils a run -/

section

variable {δ : Type}

namespace Moment

/-- The moment keeps the run from succeeding: the board was not programmed, the run was stopped, a reboot
ended it, or a test failed. -/
def Spoils : Moment δ → Prop
  | flashed (.error _) | asked true | broke _ _ => True
  | ran _ v => v.status = .fail
  | _ => False

theorem not_spoils_iff {m : Moment δ} :
    ¬ m.Spoils ↔ m.error? = none ∧ ∀ t v, m = ran t v → v.status ≠ .fail := by
  rcases m with (_ | _) | (_ | _) | _ | ⟨t, v⟩ | _ <;> simp [Spoils, error?]

end Moment

namespace Accounts

variable {plan : RunPlan} {tests : List (Test δ)} {opening closing : List (Moment δ)}
  {ran : List (Test δ × Verdict)} {x : Except Error Summary}

/-- What breaks off a run comes after the tests that were finished. -/
theorem mem_of_error? {m : Moment δ} {e : Error}
    (h : m ∈ opened plan ++ (ran.flatMap Moment.round ++ closing)) (he : m.error? = some e) :
    m ∈ closing := by
  rcases List.mem_append.1 h with h | h
  · unfold opened at h
    split at h
    · obtain rfl := List.mem_singleton.1 h
      cases he
    · cases h
  · refine (List.mem_append.1 h).resolve_left fun h => ?_
    cases (Moment.error?_eq_none_of_mem_round h).symm.trans he

/-- What broke the run off is the error that it ends with. -/
theorem error_iff (h : Accounts plan tests opening ran closing x) (e : Error) :
    x = .error e ↔ ∃ m ∈ opening ++ (ran.flatMap Moment.round ++ closing), m.error? = some e := by
  cases h with
  | unprepared hflash => simp [Moment.error?]
  | @prepared ran closing x hheads hcloses =>
    have hlast : x = .error e ↔ ∃ m ∈ closing ++ farewell x, m.error? = some e := by
      cases hcloses <;> simp [farewell, Moment.error?]
    rw [hlast]
    constructor
    · rintro ⟨m, hm, he⟩
      exact ⟨m, List.mem_append_right _ (List.mem_append_right _ hm), he⟩
    · rintro ⟨m, hm, he⟩
      exact ⟨m, mem_of_error? hm he, he⟩

/-- A test that ended the run is one of those that were given. -/
theorem broke_is (h : Accounts plan tests opening ran closing x) {t : Test δ} {e : Error}
    (hmem : .broke t e ∈ opening ++ (ran.flatMap Moment.round ++ closing)) : ∃ u ∈ tests, t.Is u := by
  cases h with
  | unprepared hflash => simp at hmem
  | @prepared ran closing x hheads hcloses =>
    have hlast := mem_of_error? hmem rfl
    cases hcloses with
    | ended hlen => simp [farewell] at hlast
    | stopped hlen => simp [farewell] at hlast
    | @broken t' u e' hu his =>
      obtain ⟨rfl, rfl⟩ : t = t' ∧ e = e' := by simpa [farewell] using hlast
      refine ⟨u, ?_, his⟩
      have hplanned := List.mem_of_getElem? hu
      unfold planned at hplanned
      split at hplanned
      · exact hplanned
      · cases hplanned

theorem ran_mem_iff {summary : Summary} {t : Test δ} {v : Verdict} :
    .ran t v ∈ opened plan ++ (ran.flatMap Moment.round ++ [.told (.summary summary)]) ↔ (t, v) ∈ ran := by
  have hopened : .ran t v ∉ opened (δ := δ) plan := by
    unfold opened
    split <;> simp
  simp [hopened, Moment.round]

theorem tally_isSuccess_iff :
    (tally {} ran).isSuccess = true ↔ ∀ t v, (t, v) ∈ ran → v.status ≠ .fail := by
  rw [tally_eq]
  simp [Summary.isSuccess, List.count_eq_zero]

/-- A run succeeds exactly if no moment spoils it. -/
theorem isSuccess_iff (h : Accounts plan tests opening ran closing x) :
    (∃ summary, x = .ok summary ∧ summary.isSuccess = true) ↔
      ∀ m ∈ opening ++ (ran.flatMap Moment.round ++ closing), ¬ m.Spoils := by
  constructor
  · rintro ⟨summary, rfl, hsuccess⟩ m hm
    refine Moment.not_spoils_iff.2 ⟨h.ok_iff.1 ⟨summary, rfl⟩ m hm, ?_⟩
    rintro t v rfl
    obtain ⟨-, rfl, rfl, rfl⟩ := h.of_ok
    exact tally_isSuccess_iff.1 hsuccess t v (ran_mem_iff.1 hm)
  · intro hall
    obtain ⟨summary, rfl⟩ := h.ok_iff.2 fun m hm => (Moment.not_spoils_iff.1 (hall m hm)).1
    obtain ⟨-, rfl, rfl, rfl⟩ := h.of_ok
    refine ⟨_, rfl, tally_isSuccess_iff.2 fun t v hran => ?_⟩
    exact (Moment.not_spoils_iff.1 (hall _ (ran_mem_iff.2 hran))).2 t v rfl

end Accounts
end

/-! ## The errors that escape -/

section

variable {δ : Type} [Bench δ] [Transport δ]

theorem Course.happens {target : Target δ} {w : Watcher δ} {ms : List (Moment δ)} {s u : Session δ}
    (h : Course target w ms s u) {m : Moment δ} (hm : m ∈ ms) : ∃ s t, Happens target w m s t := by
  induction h with
  | nil => cases hm
  | cons hhappens _ ih =>
    rcases List.mem_cons.1 hm with rfl | hm
    · exact ⟨_, _, hhappens⟩
    · exact ih hm

variable [Processes δ] [Files δ] [Operator δ]

/-- What ends a run in the middle of a test is an error of a reboot. -/
theorem Accounts.broke_isReboot (hδ : FailsAsMachine δ) {target : Target δ} (ht : target.Standard)
    {plan : RunPlan} {w : Watcher δ} {tests : List (Test δ)} (htests : ∀ t ∈ tests, t.Standard)
    {opening closing : List (Moment δ)} {ran : List (Test δ × Verdict)} {x : Except Error Summary}
    {s s' : Session δ} (h : Accounts plan tests opening ran closing x)
    (hcourse : Course target w (opening ++ (ran.flatMap Moment.round ++ closing)) s s') {t : Test δ}
    {e : Error} (hm : .broke t e ∈ opening ++ (ran.flatMap Moment.round ++ closing)) : e.IsReboot := by
  obtain ⟨s₁, s₂, hhappens⟩ := hcourse.happens hm
  obtain ⟨u, hu, his⟩ := h.broke_is hm
  cases hhappens with
  | broke hraises => exact hraises.isReboot hδ ht ((htests u hu).of_is his)

/-- What ends a run is the request to stop, or an error that has no exit status of its own. -/
theorem Accounts.escaping (hδ : FailsAsMachine δ) {target : Target δ} (ht : target.Standard)
    {plan : RunPlan} {w : Watcher δ} {tests : List (Test δ)} (htests : ∀ t ∈ tests, t.Standard)
    {opening closing : List (Moment δ)} {ran : List (Test δ × Verdict)} {e : Error} {s s' : Session δ}
    (h : Accounts plan tests opening ran closing (.error e))
    (hcourse : Course target w (opening ++ (ran.flatMap Moment.round ++ closing)) s s') :
    e = .interrupted ∧ .asked true ∈ opening ++ (ran.flatMap Moment.round ++ closing) ∨
      e.Plain ∧ .asked true ∉ opening ++ (ran.flatMap Moment.round ++ closing) := by
  obtain ⟨m, hm, he⟩ := (h.error_iff e).1 rfl
  -- the error of a run that was stopped has a status of its own
  have plain (hplain : e.Plain) :
      e.Plain ∧ .asked true ∉ opening ++ (ran.flatMap Moment.round ++ closing) := by
    refine ⟨hplain, fun hasked => ?_⟩
    cases (h.error_iff .interrupted).2 ⟨_, hasked, rfl⟩
    cases hplain
  obtain ⟨s₁, s₂, hhappens⟩ := hcourse.happens hm
  cases hhappens with
  | @flashed answer _ _ hflash =>
    rcases answer with e' | _ <;> cases he
    obtain h | h | h := ht.flash_fails hδ _ _ _ _ hflash
    all_goals exact .inr (plain h.plain)
  | @asked stop d _ hasked =>
    cases stop <;> cases he
    exact .inl ⟨rfl, hm⟩
  | told => cases he
  | ran _ => cases he
  | broke hraises =>
    cases he
    exact .inr (plain (h.broke_isReboot hδ ht htests hcourse hm).plain)

/-- The exit status that a run leads to. -/
def exitStatus : Except Error Summary → Nat
  | .ok summary =>
    if summary.isSuccess then 0 else (CommandFailure.testsFailed summary.failed summary.total).exitCode
  | .error e => (Failure.ofError e).exitCode

/-- The exit status is 0 if no moment spoils the run, 130 if it is stopped, and else 1. -/
theorem Accounts.exitStatus_iff (hδ : FailsAsMachine δ) {target : Target δ} (ht : target.Standard)
    {plan : RunPlan} {w : Watcher δ} {tests : List (Test δ)} (htests : ∀ t ∈ tests, t.Standard)
    {opening closing : List (Moment δ)} {ran : List (Test δ × Verdict)} {x : Except Error Summary}
    {s s' : Session δ} (h : Accounts plan tests opening ran closing x)
    (hcourse : Course target w (opening ++ (ran.flatMap Moment.round ++ closing)) s s') :
    let moments := opening ++ (ran.flatMap Moment.round ++ closing)
    (exitStatus x = 0 ↔ ∀ m ∈ moments, ¬ m.Spoils) ∧ (exitStatus x = 130 ↔ .asked true ∈ moments) ∧
      (exitStatus x = 0 ∨ exitStatus x = 130 ∨ exitStatus x = 1) := by
  dsimp only
  rw [← h.isSuccess_iff]
  rcases x with e | summary
  · obtain ⟨rfl, hasked⟩ | ⟨hplain, hasked⟩ := h.escaping hδ ht htests hcourse
    · simp [exitStatus, Failure.ofError, Failure.exitCode, hasked]
    · rw [Error.Plain] at hplain
      simp [exitStatus, hplain, hasked]
  · have hasked : .asked true ∉ opening ++ (ran.flatMap Moment.round ++ closing) := by
      intro hmem
      cases h.ok_iff.1 ⟨summary, rfl⟩ _ hmem
    cases hsuccess : summary.isSuccess <;> simp [exitStatus, hsuccess, hasked, CommandFailure.exitCode]

omit [Processes δ] [Files δ] [Operator δ]

/-- A stage of the test does not get the board rebooted. -/
def FailsToReboot (target : Target δ) (t : Test δ) (s : Session δ) : Prop :=
  ∃ stages error u, t.ignore = false ∧ t.stages target = .ok stages ∧
    Stage.Raises target t.body t.timeout stages ⟨s, {}⟩ error u ∧ error.IsReboot

/-- A test is not finished when a reboot fails in it. -/
theorem Happens.not_failsToReboot {target : Target δ} {w : Watcher δ} {t : Test δ} {v : Verdict}
    {s s' : Session δ} (h : Happens target w (.ran t v) s s') : ¬ FailsToReboot target t s := by
  rintro ⟨stages, error, u, hignore, hstages, hraises, reason, rfl⟩
  cases h with
  | ran hone =>
    have hbroke := runOne_eq_error_iff.2 ⟨stages, u, hignore, hstages, hraises, rfl, rfl⟩
    cases hone.symm.trans hbroke

end

end Run
end BoardBench
