import BoardBench.Act

/-!
# Actions side by side

`Relates R x y` says that two actions, started in states that `R` relates, come to the same thing and
leave states that `R` relates. `Mirrors f x y` is the case in which the second state is an image of the
first. Both go through sequences, choices and the rewording of errors.
-/

namespace BoardBench.Act

variable {σ τ σ' τ' α β : Type}

/-- Started in related states, the two come to the same and leave related states. -/
def Relates (R : σ → τ → Prop) (x : Act σ α) (y : Act τ α) : Prop :=
  ∀ s t, R s t → (y t).1 = (x s).1 ∧ R (x s).2 (y t).2

/-- `y` comes to what `x` comes to, and leaves the image of what `x` leaves. -/
def Mirrors (f : σ → τ) (x : Act σ α) (y : Act τ α) : Prop := ∀ s, y (f s) = ((x s).1, f (x s).2)

namespace Relates

variable {R : σ → τ → Prop} {x : Act σ α} {y : Act τ α}

theorem mirrors {f : σ → τ} (h : Relates R x y) (hR : ∀ s t, R s t ↔ t = f s) : Mirrors f x y := by
  intro s
  obtain ⟨h1, h2⟩ := h s (f s) ((hR _ _).2 rfl)
  exact Prod.ext h1 ((hR _ _).1 h2)

theorem pure (a : α) : Relates R (Pure.pure a : Act σ α) (Pure.pure a : Act τ α) :=
  fun _ _ h => ⟨rfl, h⟩

theorem fail (e : Error) : Relates R (Act.fail e : Act σ α) (Act.fail e : Act τ α) :=
  fun _ _ h => ⟨rfl, h⟩

theorem change {g : σ → σ} {g' : τ → τ} (h : ∀ s t, R s t → R (g s) (g' t)) :
    Relates R (Act.change g) (Act.change g') :=
  fun s t hst => ⟨rfl, h s t hst⟩

theorem bind {k : α → Act σ β} {k' : α → Act τ β} (h : Relates R x y)
    (hk : ∀ a, Relates R (k a) (k' a)) : Relates R (x >>= k) (y >>= k') := by
  intro s t hst
  obtain ⟨hval, hrel⟩ := h s t hst
  rcases hx : x s with ⟨_ | a, s'⟩ <;> rcases hy : y t with ⟨_ | b, t'⟩ <;>
    rw [hx, hy] at hval hrel <;> cases hval
  · rw [bind_error hx, bind_error hy]
    exact ⟨rfl, hrel⟩
  · rw [bind_ok hx, bind_ok hy]
    exact hk a s' t' hrel

theorem map (h : Relates R x y) (g : α → β) : Relates R (g <$> x) (g <$> y) :=
  h.bind fun a => .pure (g a)

theorem state_bind {k : σ → Act σ α} {k' : τ → Act τ α}
    (h : ∀ s t, R s t → (k' t t).1 = (k s s).1 ∧ R (k s s).2 (k' t t).2) :
    Relates R (state >>= k) (state >>= k') :=
  fun s t hst => h s t hst

theorem mapError (h : Relates R x y) (g : Error → Error) :
    Relates R (x.mapError g) (y.mapError g) := by
  intro s t hst
  obtain ⟨hval, hrel⟩ := h s t hst
  rcases hx : x s with ⟨_ | a, s'⟩ <;> rcases hy : y t with ⟨_ | b, t'⟩ <;>
    rw [hx, hy] at hval hrel <;> cases hval <;> simp only [Act.mapError, hx, hy] <;>
    exact ⟨trivial, hrel⟩

theorem attempt (h : Relates R x y) : Relates R x.attempt y.attempt := by
  intro s t hst
  obtain ⟨hval, hrel⟩ := h s t hst
  exact ⟨congrArg Except.ok hval, hrel⟩

theorem ofExcept (r : Except Error α) : Relates R (Act.ofExcept r : Act σ α) (Act.ofExcept r : Act τ α) :=
  fun _ _ h => ⟨rfl, h⟩

theorem fail_bind (e : Error) (k : α → Act σ β) (k' : α → Act τ β) :
    Relates R (Act.fail e >>= k) (Act.fail e >>= k') :=
  fun _ _ h => ⟨rfl, h⟩

theorem ite {p q : Prop} [Decidable p] [Decidable q] {x' : Act σ α} {y' : Act τ α} (hpq : q ↔ p)
    (h : Relates R x y) (h' : Relates R x' y') :
    Relates R (if p then x else x') (if q then y else y') := by
  by_cases hp : p
  · rw [if_pos hp, if_pos (hpq.2 hp)]
    exact h
  · rw [if_neg hp, if_neg fun hq => hp (hpq.1 hq)]
    exact h'

/-- What relates parts of the states relates the states, if their other parts do not matter. -/
theorem zoom {S : σ' → τ' → Prop} {z : Act σ' α} {z' : Act τ' α} {get : σ → σ'} {set : σ' → σ → σ}
    {get' : τ → τ'} {set' : τ' → τ → τ} (h : Relates S z z')
    (hget : ∀ s t, R s t → S (get s) (get' t))
    (hset : ∀ s t, R s t → ∀ s' t', S s' t' → R (set s' s) (set' t' t)) :
    Relates R (Act.zoom get set z) (Act.zoom get' set' z') := by
  intro s t hst
  obtain ⟨hval, hrel⟩ := h _ _ (hget s t hst)
  exact ⟨hval, hset s t hst _ _ hrel⟩

end Relates
end BoardBench.Act
