import BoardBench.Proofs.Text.Utf8

/-!
# Runs of characters

`OneOf p bytes` says that the bytes are one character that `p` holds of, `Several p bytes` that they are
one or more of them. A run that no such character follows is cut out of what it stands in front of in
only one way (`Several.unique`).
-/

namespace BoardBench.Text

/-- The bytes are one character that `p` holds of. -/
def OneOf (p : Nat → Bool) (bytes : Bytes) : Prop := ∃ x, Encodes x bytes ∧ p x = true

/-- The bytes are one or more characters that `p` holds of. -/
inductive Several (p : Nat → Bool) : Bytes → Prop
  | one {bs : Bytes} : OneOf p bs → Several p bs
  | more {bs cs : Bytes} : OneOf p bs → Several p cs → Several p (bs ++ cs)

/-- The bytes begin with a character that `p` holds of. -/
def Begins (p : Nat → Bool) (bytes : Bytes) : Prop := ∃ bs rest, bytes = bs ++ rest ∧ OneOf p bs

variable {p q : Nat → Bool} {bs cs bs' rest rest' : Bytes}

theorem OneOf.ne_nil (h : OneOf p bs) : bs ≠ [] := h.choose_spec.1.ne_nil

theorem OneOf.begins (h : OneOf p bs) (rest : Bytes) : Begins p (bs ++ rest) := ⟨bs, rest, rfl, h⟩

theorem OneOf.unique (h : OneOf p bs) (h' : OneOf q bs') (heq : bs ++ rest = bs' ++ rest') :
    bs = bs' ∧ rest = rest' := by
  obtain ⟨x, hx, -⟩ := h
  obtain ⟨y, hy, -⟩ := h'
  exact (hx.unique hy heq).2

theorem oneOf_ascii_iff {b : UInt8} (hb : b.toNat < 0x80) :
    OneOf (· == b.toNat) bs ↔ bs = [b] := by
  constructor
  · rintro ⟨x, hx, hmem⟩
    obtain rfl : x = b.toNat := eq_of_beq hmem
    rcases hx.bytes_eq with ⟨b', rfl, hb', -⟩ | ⟨hhigh, -⟩
    · rw [UInt8.toNat_inj.1 hb']
    · omega
  · rintro rfl
    exact ⟨_, Encodes.ascii hb, beq_self_eq_true _⟩

theorem Several.begins (h : Several p bs) (rest : Bytes) : Begins p (bs ++ rest) := by
  cases h with
  | one h => exact h.begins rest
  | more h _ =>
    rw [List.append_assoc]
    exact h.begins _

theorem Several.append (h : Several p bs) (h' : Several p cs) : Several p (bs ++ cs) := by
  induction h with
  | one h => exact .more h h'
  | more h _ ih =>
    rw [List.append_assoc]
    exact .more h ih

/-- A run ends where no more characters of it follow. -/
theorem Several.unique (h : Several p bs) (h' : Several p bs') (hrest : ¬ Begins p rest)
    (hrest' : ¬ Begins p rest') (heq : bs ++ rest = bs' ++ rest') : bs = bs' ∧ rest = rest' := by
  induction h generalizing bs' with
  | @one bs h =>
    cases h' with
    | one h' => exact h.unique h' heq
    | @more b cs h' hmore =>
      rw [List.append_assoc] at heq
      obtain ⟨-, rfl⟩ := h.unique h' heq
      exact absurd (hmore.begins rest') hrest
  | @more b cs h hmore ih =>
    rw [List.append_assoc] at heq
    cases h' with
    | one h' =>
      obtain ⟨-, rfl⟩ := h.unique h' heq
      exact absurd (hmore.begins rest) hrest'
    | more h' hmore' =>
      rw [List.append_assoc] at heq
      obtain ⟨rfl, htail⟩ := h.unique h' heq
      obtain ⟨rfl, hr⟩ := ih hmore' htail
      exact ⟨rfl, hr⟩

/-- What one character of the bytes is, no character of another kind is. -/
theorem not_begins_of_disjoint (h : OneOf p bs) (hd : ∀ x, p x = true → q x = false) :
    ¬ Begins q (bs ++ rest) := by
  rintro ⟨bs', rest', heq, y, hy, hmem⟩
  obtain ⟨x, hx, hmem'⟩ := h
  obtain ⟨rfl, -⟩ := hx.unique hy heq
  rw [hd _ hmem'] at hmem
  cases hmem

end BoardBench.Text
