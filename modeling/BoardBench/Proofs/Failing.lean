import BoardBench.Act

/-!
# What actions fail with

`FailsOnly P x` says that an action, whatever the state, fails only with errors of which `P` holds. It
goes through sequences and the rewording of errors.
-/

namespace BoardBench.Act

variable {σ τ α β : Type}

/-- Whatever the state, the action fails only with errors of which `P` holds. -/
def FailsOnly (P : Error → Prop) (x : Act σ α) : Prop := ∀ s e s', x s = (.error e, s') → P e

namespace FailsOnly

variable {P Q : Error → Prop} {x : Act σ α}

theorem mono (h : FailsOnly P x) (hPQ : ∀ e, P e → Q e) : FailsOnly Q x :=
  fun s e s' hx => hPQ e (h s e s' hx)

theorem pure (a : α) : FailsOnly P (Pure.pure a : Act σ α) := by
  intro s e s' hx
  cases hx

theorem fail {e : Error} (h : P e) : FailsOnly P (Act.fail e : Act σ α) := by
  intro s e' s' hx
  cases hx
  exact h

theorem state : FailsOnly P (Act.state : Act σ σ) := by
  intro s e s' hx
  cases hx

theorem change (f : σ → σ) : FailsOnly P (Act.change f) := by
  intro s e s' hx
  cases hx

theorem ofExcept {r : Except Error α} (h : ∀ e, r = .error e → P e) :
    FailsOnly P (Act.ofExcept r : Act σ α) := by
  intro s e s' hx
  exact h e (congrArg Prod.fst hx)

theorem bind {k : α → Act σ β} (h : FailsOnly P x) (hk : ∀ a, FailsOnly P (k a)) :
    FailsOnly P (x >>= k) := by
  intro s e s' hx
  obtain hfail | ⟨a, t, -, hrest⟩ := Act.bind_error_iff.1 hx
  · exact h s e s' hfail
  · exact hk a t e s' hrest

theorem mapError {f : Error → Error} (h : FailsOnly P x) (hf : ∀ e, P e → Q (f e)) :
    FailsOnly Q (x.mapError f) := by
  intro s e s' hx
  obtain ⟨e', hfail, rfl⟩ := Act.mapError_error_iff.1 hx
  exact hf e' (h s e' s' hfail)

theorem zoom {get : σ → τ} {set : τ → σ → σ} {z : Act τ α} (h : FailsOnly P z) :
    FailsOnly P (Act.zoom get set z) := by
  intro s e s' hx
  obtain ⟨t, hz, -⟩ := Act.zoom_eq_iff.1 hx
  exact h (get s) e t hz

end FailsOnly
end BoardBench.Act
