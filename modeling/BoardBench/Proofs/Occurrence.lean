import BoardBench.Bytes

/-!
# Occurrences

Where a byte string stands in joined bytes. An occurrence that ends within the front part is one of
the front part (`OccursAt.of_append`), one that begins in the back part is one of the back part
(`occursAt_append_right`). `FirstAt` is the occurrence that `Bytes.indexOf?` finds.
-/

namespace BoardBench

variable {needle front back : Bytes} {i : Nat}

theorem OccursAt.length_le (h : OccursAt needle front i) : i + needle.length ≤ front.length := by
  obtain ⟨before, after, rfl, rfl⟩ := h
  simp only [List.length_append]
  omega

theorem OccursAt.append (h : OccursAt needle front i) (more : Bytes) :
    OccursAt needle (front ++ more) i := by
  obtain ⟨before, after, rfl, rfl⟩ := h
  exact ⟨before, after ++ more, by simp, rfl⟩

theorem OccursAt.of_append (h : OccursAt needle (front ++ back) i)
    (hi : i + needle.length ≤ front.length) : OccursAt needle front i := by
  rw [Bytes.occursAt_iff] at h ⊢
  refine ⟨by omega, ?_⟩
  rw [List.drop_append_of_le_length (by omega)] at h
  exact List.prefix_of_prefix_length_le h.2 (List.prefix_append _ _)
    (by rw [List.length_drop]; omega)

theorem occursAt_append_right :
    OccursAt needle (front ++ back) (front.length + i) ↔ OccursAt needle back i := by
  have hd : List.drop (front.length + i) front = [] := List.drop_eq_nil_of_le (by omega)
  simp [Bytes.occursAt_iff, List.drop_append, hd]

/-- The needle stands at offset `i` and at no smaller one. -/
def FirstAt (needle bytes : Bytes) (i : Nat) : Prop :=
  OccursAt needle bytes i ∧ ∀ j < i, ¬ OccursAt needle bytes j

theorem indexOf?_eq_some_iff_firstAt {bytes : Bytes} :
    Bytes.indexOf? needle bytes = some i ↔ FirstAt needle bytes i :=
  Bytes.indexOf?_eq_some_iff

/-- The first occurrence stays the first one, whatever follows. -/
theorem FirstAt.append (h : FirstAt needle front i) (more : Bytes) :
    FirstAt needle (front ++ more) i := by
  have hl := h.1.length_le
  exact ⟨h.1.append more, fun j hj hjo => h.2 j hj (hjo.of_append (by omega))⟩

/-- If the needle does not begin within the front, it does not stand in it. -/
theorem not_occurs_of_not_begins (hn : needle ≠ [])
    (h : ∀ j < front.length, ¬ OccursAt needle (front ++ back) j) : ¬ Occurs needle front := by
  rintro ⟨j, hj⟩
  have hl := hj.length_le
  have hpos := List.length_pos_iff.2 hn
  exact h j (by omega) (hj.append back)

end BoardBench
