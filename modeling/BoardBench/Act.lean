import BoardBench.Error

/-!
# Actions

An action changes a state and gives a value or fails. A failure ends what follows it, but what was
done to the state before it stays done.
-/

namespace BoardBench

/-- An action on a state. -/
def Act (σ α : Type) := σ → Except Error α × σ

namespace Act

variable {σ τ α β γ : Type}

/-- Gives a value and leaves the state alone. -/
def pure (a : α) : Act σ α := fun s => (.ok a, s)

/-- Goes on with the value, unless there is none. -/
def bind (x : Act σ α) (f : α → Act σ β) : Act σ β := fun s =>
  match x s with
  | (.ok a, s') => f a s'
  | (.error e, s') => (.error e, s')

instance : Monad (Act σ) where
  pure := Act.pure
  bind := Act.bind

/-- Fails. -/
def fail (e : Error) : Act σ α := fun s => (.error e, s)

/-- The state. -/
def state : Act σ σ := fun s => (.ok s, s)

/-- Changes the state. -/
def change (f : σ → σ) : Act σ Unit := fun s => (.ok (), f s)

/-- The action with another error in place of the one it fails with. -/
def mapError (f : Error → Error) (x : Act σ α) : Act σ α := fun s =>
  match x s with
  | (.ok a, s') => (.ok a, s')
  | (.error e, s') => (.error (f e), s')

/-- What the action gives or fails with, as a value. -/
def attempt (x : Act σ α) : Act σ (Except Error α) := fun s => (.ok (x s).1, (x s).2)

/-- A value, or failure with its error. -/
def ofExcept (r : Except Error α) : Act σ α := fun s => (r, s)

/-- An action on a part of the state. -/
def zoom (get : σ → τ) (set : τ → σ → σ) (x : Act τ α) : Act σ α := fun s =>
  ((x (get s)).1, set (x (get s)).2 s)

@[simp] theorem pure_apply (a : α) (s : σ) : (Pure.pure a : Act σ α) s = (.ok a, s) := rfl

theorem bind_ok {x : Act σ α} {f : α → Act σ β} {s s' : σ} {a : α} (h : x s = (.ok a, s')) :
    (x >>= f) s = f a s' := by
  show Act.bind x f s = _
  simp [Act.bind, h]

theorem bind_error {x : Act σ α} {f : α → Act σ β} {s s' : σ} {e : Error}
    (h : x s = (.error e, s')) : (x >>= f) s = (.error e, s') := by
  show Act.bind x f s = _
  simp [Act.bind, h]

theorem bind_eq_iff {x : Act σ α} {f : α → Act σ β} {s s' : σ} {r : Except Error β} :
    (x >>= f) s = (r, s') ↔
      (∃ e, x s = (.error e, s') ∧ r = .error e) ∨ ∃ a t, x s = (.ok a, t) ∧ f a t = (r, s') := by
  constructor
  · intro h
    rcases hx : x s with ⟨e | a, t⟩
    · rw [bind_error hx] at h
      cases h
      exact .inl ⟨e, rfl, rfl⟩
    · rw [bind_ok hx] at h
      exact .inr ⟨a, t, rfl, h⟩
  · rintro (⟨e, hx, rfl⟩ | ⟨a, t, hx, h⟩)
    · exact bind_error hx
    · rw [bind_ok hx, h]

theorem bind_ok_iff {x : Act σ α} {f : α → Act σ β} {s s' : σ} {b : β} :
    (x >>= f) s = (.ok b, s') ↔ ∃ a t, x s = (.ok a, t) ∧ f a t = (.ok b, s') := by
  simp [bind_eq_iff]

theorem bind_error_iff {x : Act σ α} {f : α → Act σ β} {s s' : σ} {e : Error} :
    (x >>= f) s = (.error e, s') ↔
      x s = (.error e, s') ∨ ∃ a t, x s = (.ok a, t) ∧ f a t = (.error e, s') := by
  simp [bind_eq_iff]

theorem bind_assoc (x : Act σ α) (f : α → Act σ β) (g : β → Act σ γ) :
    (x >>= f) >>= g = x >>= fun a => f a >>= g := by
  funext s
  rcases h : x s with ⟨_ | a, t⟩
  · rw [bind_error h, bind_error (bind_error h)]
  · rw [bind_ok h]
    show Act.bind (x >>= f) g s = Act.bind (f a) g t
    simp only [Act.bind, bind_ok h]

theorem bind_unit (x : Act σ Unit) : (x >>= fun _ => Pure.pure ()) = x := by
  funext s
  rcases hx : x s with ⟨_ | _, s'⟩
  · exact bind_error hx
  · exact bind_ok hx

theorem map_apply (f : α → β) (x : Act σ α) (s : σ) : (f <$> x) s = ((x s).1.map f, (x s).2) := by
  show Act.bind x (fun a => Act.pure (f a)) s = _
  rcases h : x s with ⟨_ | a, t⟩ <;> simp only [Act.bind, Act.pure, h] <;> rfl

theorem mapError_eq_iff {f : Error → Error} {x : Act σ α} {s s' : σ} {r : Except Error α} :
    mapError f x s = (r, s') ↔
      (∃ e, x s = (.error e, s') ∧ r = .error (f e)) ∨ ∃ a, x s = (.ok a, s') ∧ r = .ok a := by
  rcases hx : x s with ⟨e | a, t⟩ <;> simp only [mapError, hx]
  · constructor
    · intro h
      cases h
      exact .inl ⟨e, rfl, rfl⟩
    · rintro (⟨_, h, rfl⟩ | ⟨_, h, _⟩) <;> cases h
      rfl
  · constructor
    · intro h
      cases h
      exact .inr ⟨a, rfl, rfl⟩
    · rintro (⟨_, h, _⟩ | ⟨_, h, rfl⟩) <;> cases h
      rfl

theorem mapError_ok_iff {f : Error → Error} {x : Act σ α} {s s' : σ} {a : α} :
    mapError f x s = (.ok a, s') ↔ x s = (.ok a, s') := by
  simp [mapError_eq_iff]

theorem mapError_error_iff {f : Error → Error} {x : Act σ α} {s s' : σ} {e : Error} :
    mapError f x s = (.error e, s') ↔ ∃ e', x s = (.error e', s') ∧ e = f e' := by
  simp [mapError_eq_iff]

theorem state_bind (f : σ → Act σ α) (s : σ) : (state >>= f) s = f s s := rfl

theorem change_bind (g : σ → σ) (f : Unit → Act σ α) (s : σ) : (change g >>= f) s = f () (g s) := rfl

theorem fail_bind (e : Error) (f : α → Act σ β) (s : σ) : (fail e >>= f) s = (.error e, s) := rfl

theorem zoom_eq_iff {get : σ → τ} {set : τ → σ → σ} {x : Act τ α} {s s' : σ} {r : Except Error α} :
    zoom get set x s = (r, s') ↔ ∃ t, x (get s) = (r, t) ∧ s' = set t s := by
  rcases h : x (get s) with ⟨q, t⟩
  simp only [zoom, h, Prod.mk.injEq]
  constructor
  · rintro ⟨rfl, rfl⟩
    exact ⟨t, ⟨rfl, rfl⟩, rfl⟩
  · rintro ⟨_, ⟨rfl, rfl⟩, rfl⟩
    exact ⟨rfl, rfl⟩

end Act
end BoardBench
