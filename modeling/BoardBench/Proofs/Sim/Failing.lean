import BoardBench.Proofs.Session.Failing
import BoardBench.Sim.World

/-!
# A simulated bench fails as machines do

What the console of a process raises is an error of the machine, and what the console of a board raises
is one if that of its serial lines is. So it is on a simulated bench (`Sim.World.failsAsMachine`).
-/

namespace BoardBench

open Transport

namespace ProcessConsole

variable {δ : Type} [Bench δ] [Processes δ]

theorem start_fails {c c' : ProcessConsole} {d d' : δ} {e : Error}
    (h : c.start d = (.error e, c', d')) : e.OfMachine := by
  unfold start at h
  split at h
  · cases h
  · cases h
    exact .io _

theorem stop_fails {c c' : ProcessConsole} {d d' : δ} {e : Error}
    (h : c.stop d = (.error e, c', d')) : e.OfMachine := by
  unfold stop at h
  split at h
  · cases h
  · split at h
    · cases h
      exact .io _
    · cases h

theorem reopen_fails {c c' : ProcessConsole} {d d' : δ} {e : Error}
    (h : c.reopen d = (.error e, c', d')) : e.OfMachine := by
  unfold reopen at h
  split at h
  · rename_i hstop
    cases h
    exact stop_fails hstop
  · exact start_fails h

end ProcessConsole

namespace SerialConsole

variable {δ : Type} [Bench δ] [SerialLines δ]

/-- A line that cannot be opened again is reported as the last attempt to open it was. -/
theorem reopenSince_fails {start : Nat} {c c' : SerialConsole} {d d' : δ} {e : Error}
    (h : reopenSince start c d = (.error e, c', d')) :
    ∃ d₁ d₂ : δ, openLine c.config d₁ = (.error e, d₂) := by
  fun_induction reopenSince start c d with
  | case1 d line d₁ hopen => cases h
  | case2 d e' d₁ hopen hlate =>
    cases h
    exact ⟨_, _, hopen⟩
  | case3 d e' d₁ hopen hlate hback =>
    cases h
    exact ⟨_, _, hopen⟩
  | case4 d e' d₁ hopen hlate hback ih => exact ih h

end SerialConsole

namespace Sim

theorem Board.clear_fails {b b' : Board} {e : Error} (h : b.clear = (.error e, b')) : e.OfMachine := by
  unfold clear at h
  split at h
  · cases h
    exact .io _
  · cases h

namespace World

theorem openLine_fails {path : String} {timeout : Span} {w w' : World} {e : Error}
    (h : openLine path timeout w = (.error e, w')) : e.OfMachine := by
  unfold openLine at h
  split at h
  · split at h
    · split at h
      · cases h
        exact .serial _
      · cases h
    · cases h
      exact .serial _
  all_goals
    cases h
    exact .serial _

theorem transportSetTimeout_isOk (t : Span) (w : World) : (transportSetTimeout t w).1 = .ok () := by
  unfold transportSetTimeout
  split
  · rfl
  · rfl
  · rename_i c _
    simp only [SerialConsole.setTimeout]
    split
    · rfl
    · cases c.line <;> rfl

theorem transportClear_fails {w w' : World} {e : Error} (h : transportClear w = (.error e, w')) :
    e.OfMachine := by
  unfold transportClear at h
  split at h
  · rcases hclear : w.board.clear with ⟨r, board⟩
    rw [hclear] at h
    cases h
    exact Board.clear_fails hclear
  · cases h
  · rename_i c hlink
    unfold SerialConsole.clear at h
    cases hline : c.line <;> rw [hline] at h <;> cases h

theorem transportReopen_fails {w w' : World} {e : Error} (h : transportReopen w = (.error e, w')) :
    e.OfMachine := by
  unfold transportReopen at h
  split at h
  · split at h
    · cases h
    · cases h
      exact .unsupported _
  · rename_i c hlink
    rcases hreopen : c.reopen w with ⟨r, c', w₁⟩
    rw [hreopen] at h
    cases h
    exact ProcessConsole.reopen_fails hreopen
  · rename_i c hlink
    rcases hreopen : c.reopen w with ⟨r, c', w₁⟩
    rw [hreopen] at h
    cases h
    obtain ⟨d₁, d₂, hopen⟩ := SerialConsole.reopenSince_fails hreopen
    exact openLine_fails hopen

/-- The transports of a simulated bench raise errors of the machine alone. -/
theorem failsAsMachine : FailsAsMachine World := by
  intro e he
  cases he with
  | fault f => exact .io f
  | @setTimeout t w w' e h => cases (transportSetTimeout_isOk t w).symm.trans (congrArg Prod.fst h)
  | clear h => exact transportClear_fails h
  | reopen h => exact transportReopen_fails h

end World
end Sim
end BoardBench
