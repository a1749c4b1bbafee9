/-!
# Byte strings

What travels over a console is a list of bytes. `indexOf?` is the place of the first occurrence of
one byte string in another; `indexOf?_eq_some_iff` says that it is a place where the needle stands
and that it stands at no earlier one, `indexOf?_eq_none_iff` that it fails only if there is none.
-/

namespace BoardBench

/-- A string of bytes. -/
abbrev Bytes := List UInt8

/-- The needle stands in the bytes at offset `i`. -/
def OccursAt (needle bytes : Bytes) (i : Nat) : Prop :=
  ∃ before after, bytes = before ++ needle ++ after ∧ before.length = i

/-- The needle stands somewhere in the bytes. -/
def Occurs (needle bytes : Bytes) : Prop := ∃ i, OccursAt needle bytes i

namespace Bytes

/-- The UTF-8 form of a text. -/
def ofText (s : String) : Bytes := s.toList.flatMap String.utf8EncodeChar

/-- Offset of the first occurrence of `needle`. -/
def indexOf? (needle : Bytes) : Bytes → Option Nat
  | [] => if needle.isEmpty then some 0 else none
  | b :: rest =>
    if needle.isPrefixOf (b :: rest) then some 0 else (indexOf? needle rest).map (· + 1)

/-- Whether `needle` stands somewhere in `bytes`. -/
def contains (bytes needle : Bytes) : Bool := (indexOf? needle bytes).isSome

/-- Blank, tab, line feed, form feed or carriage return. -/
def isBlank (b : UInt8) : Bool :=
  b == 0x20 || b == 0x09 || b == 0x0A || b == 0x0C || b == 0x0D

theorem ofText_append (s t : String) : ofText (s ++ t) = ofText s ++ ofText t := by
  simp [ofText]

theorem occursAt_iff {needle bytes : Bytes} {i : Nat} :
    OccursAt needle bytes i ↔ i ≤ bytes.length ∧ needle <+: bytes.drop i := by
  constructor
  · rintro ⟨p, s, rfl, rfl⟩
    simp
  · rintro ⟨hi, s, hs⟩
    refine ⟨bytes.take i, s, ?_, by simp [hi]⟩
    rw [List.append_assoc, hs, List.take_append_drop]

theorem occursAt_zero {needle bytes : Bytes} : OccursAt needle bytes 0 ↔ needle <+: bytes := by
  simp [occursAt_iff]

theorem occursAt_succ {needle : Bytes} {b : UInt8} {bytes : Bytes} {i : Nat} :
    OccursAt needle (b :: bytes) (i + 1) ↔ OccursAt needle bytes i := by
  simp [occursAt_iff]

theorem indexOf?_eq_some_iff {needle bytes : Bytes} {i : Nat} :
    indexOf? needle bytes = some i ↔
      OccursAt needle bytes i ∧ ∀ j < i, ¬ OccursAt needle bytes j := by
  induction bytes generalizing i with
  | nil =>
    cases needle with
    | nil =>
      simp only [indexOf?, List.isEmpty_nil, ↓reduceIte, Option.some.injEq]
      constructor
      · rintro rfl
        exact ⟨⟨[], [], by simp⟩, by simp⟩
      · rintro ⟨h, _⟩
        have := (occursAt_iff.1 h).1
        simp at this
        omega
    | cons a n =>
      simp only [indexOf?, List.isEmpty_cons, Bool.false_eq_true, ↓reduceIte, reduceCtorEq,
        false_iff]
      rintro ⟨h, _⟩
      have := (occursAt_iff.1 h).2
      simp at this
  | cons b rest ih =>
    simp only [indexOf?]
    by_cases hp : needle.isPrefixOf (b :: rest)
    · simp only [hp, ↓reduceIte, Option.some.injEq]
      have h0 : OccursAt needle (b :: rest) 0 :=
        occursAt_zero.2 (List.isPrefixOf_iff_prefix.1 hp)
      constructor
      · rintro rfl
        exact ⟨h0, by simp⟩
      · rintro ⟨_, h⟩
        by_cases hi : i = 0
        · exact hi.symm
        · exact absurd h0 (h 0 (by omega))
    · simp only [hp, Bool.false_eq_true, ↓reduceIte, Option.map_eq_some_iff]
      have h0 : ¬ OccursAt needle (b :: rest) 0 := fun h =>
        hp (List.isPrefixOf_iff_prefix.2 (occursAt_zero.1 h))
      constructor
      · rintro ⟨k, hk, rfl⟩
        obtain ⟨h1, h2⟩ := ih.1 hk
        refine ⟨occursAt_succ.2 h1, fun j hj => ?_⟩
        cases j with
        | zero => exact h0
        | succ j => exact fun h => h2 j (by omega) (occursAt_succ.1 h)
      · rintro ⟨h1, h2⟩
        cases i with
        | zero => exact absurd h1 h0
        | succ k =>
          exact ⟨k, ih.2 ⟨occursAt_succ.1 h1, fun j hj h =>
            h2 (j + 1) (by omega) (occursAt_succ.2 h)⟩, rfl⟩

theorem indexOf?_eq_none_iff {needle bytes : Bytes} :
    indexOf? needle bytes = none ↔ ¬ Occurs needle bytes := by
  induction bytes with
  | nil =>
    cases needle with
    | nil =>
      have h : Occurs ([] : Bytes) [] := ⟨0, [], [], rfl, rfl⟩
      simp [indexOf?, h]
    | cons a n =>
      simp only [indexOf?, List.isEmpty_cons, Bool.false_eq_true, ↓reduceIte, true_iff]
      rintro ⟨i, h⟩
      have := (occursAt_iff.1 h).2
      simp at this
  | cons b rest ih =>
    simp only [indexOf?]
    by_cases hp : needle.isPrefixOf (b :: rest)
    · simp only [hp, ↓reduceIte, reduceCtorEq, false_iff]
      exact fun h => h ⟨0, occursAt_zero.2 (List.isPrefixOf_iff_prefix.1 hp)⟩
    · simp only [hp, Bool.false_eq_true, ↓reduceIte, Option.map_eq_none_iff, ih]
      refine not_congr ⟨fun ⟨i, h⟩ => ⟨i + 1, occursAt_succ.2 h⟩, fun ⟨i, h⟩ => ?_⟩
      cases i with
      | zero => exact absurd (List.isPrefixOf_iff_prefix.2 (occursAt_zero.1 h)) hp
      | succ k => exact ⟨k, occursAt_succ.1 h⟩

theorem contains_iff {bytes needle : Bytes} : contains bytes needle = true ↔ Occurs needle bytes := by
  unfold contains
  cases h : indexOf? needle bytes with
  | none => simpa using indexOf?_eq_none_iff.1 h
  | some i => simpa using ⟨i, (indexOf?_eq_some_iff.1 h).1⟩

end Bytes
end BoardBench
