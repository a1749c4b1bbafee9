import BoardBench.Proofs.Pattern.Earliest

/-!
# Splitting a stream at its earliest match

`split? ps bytes` is the earliest match with what precedes it, and the bytes that follow it. The
three make up the stream again (`split?_append`), and what a stable list of patterns does to the
front of a stream it does to all of it (`Stable.split?_append`). For literals the split is pinned
down by where they first stand (`split?_literals_iff`).
-/

namespace BoardBench.Pattern

/-- The earliest match in the bytes, and what follows it. -/
def split? (ps : List Pattern) (bytes : Bytes) : Option (Match × Bytes) :=
  (earliest? ps bytes).map fun (index, found) =>
    ({ index, groups := found.groups, before := bytes.take found.start,
       matched := (bytes.take found.finish).drop found.start }, bytes.drop found.finish)

variable {ps : List Pattern} {bytes more rest : Bytes} {m : Match}

theorem split?_eq_none_iff : split? ps bytes = none ↔ earliest? ps bytes = none := by
  simp [split?]

theorem split?_eq_some_iff :
    split? ps bytes = some (m, rest) ↔
      ∃ f, Earliest ps bytes m.index f ∧ m.groups = f.groups ∧ m.before = bytes.take f.start ∧
        m.matched = (bytes.take f.finish).drop f.start ∧ rest = bytes.drop f.finish := by
  constructor
  · intro h
    obtain ⟨⟨i, f⟩, hf, heq⟩ := Option.map_eq_some_iff.1 h
    cases heq
    exact ⟨f, earliest?_eq_some_iff.1 hf, rfl, rfl, rfl, rfl⟩
  · rintro ⟨f, hf, hg, hb, hm, rfl⟩
    refine Option.map_eq_some_iff.2 ⟨_, earliest?_eq_some_iff.2 hf, ?_⟩
    rcases m with ⟨i, g, b, x⟩
    cases hg
    cases hb
    cases hm
    rfl

theorem Earliest.le {i : Nat} {f : Found} (h : Earliest ps bytes i f) :
    f.start ≤ f.finish ∧ f.finish ≤ bytes.length := by
  obtain ⟨p, -, hpf, -⟩ := h
  exact find?_le hpf

/-- What precedes a match, the match and what follows it make up the stream. -/
theorem split?_append (h : split? ps bytes = some (m, rest)) :
    bytes = m.before ++ m.matched ++ rest := by
  obtain ⟨f, hf, -, hb, hm, rfl⟩ := split?_eq_some_iff.1 h
  have hle := hf.le
  have htake : m.before ++ m.matched = bytes.take f.finish := by
    rw [hb, hm, ← List.take_append_drop f.start (bytes.take f.finish), List.take_take,
      Nat.min_eq_left hle.1, List.drop_append_of_le_length (by simp; omega)]
    simp
  rw [htake, List.take_append_drop]

theorem Stable.split?_append (h : Stable ps) (hs : split? ps bytes = some (m, rest)) :
    split? ps (bytes ++ more) = some (m, rest ++ more) := by
  obtain ⟨f, hf, hg, hb, hm, rfl⟩ := split?_eq_some_iff.1 hs
  have hle := hf.le
  refine split?_eq_some_iff.2 ⟨f, ?_, hg, ?_, ?_, ?_⟩
  · exact earliest?_eq_some_iff.1 (h bytes more _ (earliest?_eq_some_iff.2 hf))
  · rw [hb, List.take_append_of_le_length (by omega)]
  · rw [hm, List.take_append_of_le_length hle.2]
  · rw [List.drop_append_of_le_length hle.2]

theorem split?_singleton_iff {p : Pattern} :
    split? [p] bytes = some (m, rest) ↔ ∃ f, p.find? bytes = some f ∧
      m = ⟨0, f.groups, bytes.take f.start, (bytes.take f.finish).drop f.start⟩ ∧
      rest = bytes.drop f.finish := by
  rw [split?, earliest?_singleton]
  cases p.find? bytes with
  | none => simp
  | some f =>
    simp only [Option.map_some, Option.some.injEq, Prod.mk.injEq, exists_eq_left']
    exact and_congr eq_comm eq_comm

/-! ## Literals -/

/-- Of all the literals none stands before the match, and none listed before it stands where it
begins. -/
theorem split?_literals_iff {needles : List Bytes} :
    split? (needles.map literal) bytes = some (m, rest) ↔
      ∃ needle, needles[m.index]? = some needle ∧ m.groups = [] ∧ m.matched = needle ∧
        bytes = m.before ++ needle ++ rest ∧
        (∀ n ∈ needles, ∀ j < m.before.length, ¬ OccursAt n bytes j) ∧
        ∀ i < m.index, ∀ n, needles[i]? = some n → ¬ OccursAt n bytes m.before.length := by
  constructor
  · intro h
    have happ := split?_append h
    obtain ⟨f, hf, hg, hb, hm, hr⟩ := split?_eq_some_iff.1 h
    have hle := hf.le
    have hlen : m.before.length = f.start := by rw [hb, List.length_take]; omega
    obtain ⟨p, hp, hpf, hmin⟩ := hf
    rw [List.getElem?_map] at hp
    obtain ⟨needle, hneedle, rfl⟩ := Option.map_eq_some_iff.1 hp
    obtain ⟨hfirst, hfin, hgr⟩ := find?_literal_iff.1 hpf
    have hmatched : m.matched = needle := by
      have hpre := (Bytes.occursAt_iff.1 hfirst.1).2
      rw [hm, List.drop_take, hfin, Nat.add_sub_cancel_left]
      exact (List.prefix_iff_eq_take.1 hpre).symm
    -- a literal that stands at `j` has a first place at or before `j`
    have hnot : ∀ i n j, needles[i]? = some n → OccursAt n bytes j →
        f.start ≤ j ∧ (i < m.index → f.start < j) := by
      intro i n j hi hj
      cases hk : Bytes.indexOf? n bytes with
      | none => exact absurd ⟨j, hj⟩ (Bytes.indexOf?_eq_none_iff.1 hk)
      | some k =>
        have hk' := Bytes.indexOf?_eq_some_iff.1 hk
        have hkj : k ≤ j := Nat.le_of_not_lt fun hlt => hk'.2 j hlt hj
        have := hmin i (literal n) ⟨k, k + n.length, []⟩ (by rw [List.getElem?_map, hi]; rfl)
          (find?_literal_iff.2 ⟨hk', rfl, rfl⟩)
        exact ⟨by have := this.1; simp only at this; omega,
          fun hlt => by have := this.2 hlt; simp only at this; omega⟩
    refine ⟨needle, hneedle, hg.trans hgr, hmatched, hmatched ▸ happ, fun n hn j hj ho => ?_,
      fun i hi n hn ho => ?_⟩
    · obtain ⟨i, hi⟩ := List.mem_iff_getElem?.1 hn
      have := (hnot i n j hi ho).1
      omega
    · have := (hnot i n _ hn ho).2 hi
      omega
  · rintro ⟨needle, hneedle, hg, hm, rfl, hnone, htie⟩
    have hat : OccursAt needle (m.before ++ needle ++ rest) m.before.length :=
      ⟨m.before, rest, rfl, rfl⟩
    refine split?_eq_some_iff.2 ⟨⟨m.before.length, m.before.length + needle.length, []⟩, ?_, hg, ?_,
      ?_, ?_⟩
    · refine ⟨literal needle, by rw [List.getElem?_map, hneedle]; rfl,
        find?_literal_iff.2 ⟨⟨hat, hnone needle (List.mem_of_getElem? hneedle)⟩, rfl, rfl⟩, ?_⟩
      intro j q g hq hqg
      rw [List.getElem?_map] at hq
      obtain ⟨n, hn, rfl⟩ := Option.map_eq_some_iff.1 hq
      have hgat := (find?_literal_iff.1 hqg).1.1
      have hge : m.before.length ≤ g.start :=
        Nat.le_of_not_lt fun hlt => hnone n (List.mem_of_getElem? hn) _ hlt hgat
      refine ⟨hge, fun hlt => Nat.lt_of_le_of_ne hge fun heq => ?_⟩
      change m.before.length = g.start at heq
      exact htie j hlt n hn (heq ▸ hgat)
    · simp
    · rw [hm, List.take_append_of_le_length (by simp), List.drop_take]
      simp
    · rw [← List.length_append, List.drop_append_of_le_length (Nat.le_refl _)]
      simp

theorem split?_literals_eq_none_iff {needles : List Bytes} :
    split? (needles.map literal) bytes = none ↔ ∀ needle ∈ needles, ¬ Occurs needle bytes := by
  rw [split?_eq_none_iff, earliest?_eq_none_iff, List.forall_mem_map]
  refine forall₂_congr fun needle _ => ?_
  rw [find?, Option.map_eq_none_iff, Bytes.indexOf?_eq_none_iff]

/-- One literal is found where it first stands. -/
theorem split?_literal_iff {needle : Bytes} :
    split? [literal needle] bytes = some (m, rest) ↔
      m = ⟨0, [], m.before, needle⟩ ∧ bytes = m.before ++ needle ++ rest ∧
        ∀ j < m.before.length, ¬ OccursAt needle bytes j := by
  rw [show [literal needle] = [needle].map literal from rfl, split?_literals_iff]
  rcases m with ⟨_ | i, g, b, x⟩
  · constructor
    · rintro ⟨_, hn, rfl, rfl, rfl, hnone, -⟩
      cases hn
      exact ⟨rfl, rfl, hnone _ List.mem_cons_self⟩
    · rintro ⟨hm, rfl, hnone⟩
      cases hm
      refine ⟨_, rfl, rfl, rfl, rfl, fun n hn => ?_, fun i hi => absurd hi (Nat.not_lt_zero i)⟩
      cases List.mem_singleton.1 hn
      exact hnone
  · constructor
    · rintro ⟨_, hn, -⟩
      cases hn
    · rintro ⟨hm, -⟩
      cases hm

end BoardBench.Pattern
