import BoardBench.Proofs.Pattern.Split

/-!
# Where patterns occur

A literal occurs where it stands, a regular expression where a match of it begins. Which matches an
expression has is not said here (`Matches`): it is assumed of the library that each expression finds one
that begins first, if it has any (`Leftmost`). Then what a pattern finds is its first occurrence
(`find?_first`), and it finds nothing only if it occurs nowhere (`find?_eq_none_iff`). So a list of
patterns splits a stream where one of them occurs first, at the first listed of those that occur there
(`split?_picks`).
-/

namespace BoardBench.Pattern

variable {Matches : Regex → Bytes → Regex.Captures → Prop}

/-- An occurrence of the pattern begins at offset `i`. -/
def OccursAt (Matches : Regex → Bytes → Regex.Captures → Prop) (p : Pattern) (bytes : Bytes) (i : Nat) :
    Prop :=
  match p with
  | literal needle => BoardBench.OccursAt needle bytes i
  | regex re => ∃ c, Matches re bytes c ∧ c.start = i

/-- Each expression among the patterns finds a match that begins first. -/
def Leftmost (Matches : Regex → Bytes → Regex.Captures → Prop) (ps : List Pattern) : Prop :=
  ∀ re, regex re ∈ ps → re.Leftmost (Matches re)

variable {p : Pattern} {ps : List Pattern} {bytes rest : Bytes} {f : Found} {m : Match}

/-- What a pattern finds is its first occurrence. -/
theorem find?_first (hps : Leftmost Matches ps) (hp : p ∈ ps) (h : p.find? bytes = some f) :
    p.OccursAt Matches bytes f.start ∧ ∀ i < f.start, ¬ p.OccursAt Matches bytes i := by
  cases p with
  | literal needle => exact (find?_literal_iff.1 h).1
  | regex re =>
    obtain ⟨c, hc, rfl⟩ := Option.map_eq_some_iff.1 h
    refine ⟨⟨c, (hps re hp).found bytes c hc, rfl⟩, ?_⟩
    rintro i hi ⟨c', hmatch, rfl⟩
    exact Nat.not_lt_of_le ((hps re hp).first bytes c c' hc hmatch) hi

theorem find?_eq_none_iff (hps : Leftmost Matches ps) (hp : p ∈ ps) :
    p.find? bytes = none ↔ ∀ i, ¬ p.OccursAt Matches bytes i := by
  constructor
  · intro h
    cases p with
    | literal needle =>
      have hnone := Bytes.indexOf?_eq_none_iff.1 (Option.map_eq_none_iff.1 h)
      exact fun i hi => hnone ⟨i, hi⟩
    | regex re =>
      rintro i ⟨c, hmatch, -⟩
      have hsome := (hps re hp).complete bytes c hmatch
      rw [Option.map_eq_none_iff.1 h] at hsome
      cases hsome
  · intro h
    cases hf : p.find? bytes with
    | none => rfl
    | some f => exact absurd (find?_first hps hp hf).1 (h f.start)

/-- None of the patterns occurs in the bytes. -/
def Absent (Matches : Regex → Bytes → Regex.Captures → Prop) (ps : List Pattern) (bytes : Bytes) : Prop :=
  ∀ p ∈ ps, ∀ i, ¬ p.OccursAt Matches bytes i

theorem split?_eq_none_iff_absent (hps : Leftmost Matches ps) :
    split? ps bytes = none ↔ Absent Matches ps bytes := by
  rw [split?_eq_none_iff, earliest?_eq_none_iff]
  exact forall₂_congr fun p hp => find?_eq_none_iff hps hp

/-- The match is what a pattern finds in the bytes, no pattern occurs before it, and none that is listed
before that pattern occurs where it begins. -/
structure Picks (Matches : Regex → Bytes → Regex.Captures → Prop) (ps : List Pattern) (bytes : Bytes)
    (m : Match) (rest : Bytes) : Prop where
  split : bytes = m.before ++ m.matched ++ rest
  found : ∃ p, ps[m.index]? = some p ∧ p.OccursAt Matches bytes m.before.length ∧
    p.find? bytes = some ⟨m.before.length, m.before.length + m.matched.length, m.groups⟩
  first : ∀ (j : Nat) (q : Pattern) (i : Nat), ps[j]? = some q → q.OccursAt Matches bytes i →
    m.before.length ≤ i ∧ (j < m.index → m.before.length < i)

theorem split?_picks (hps : Leftmost Matches ps) (h : split? ps bytes = some (m, rest)) :
    Picks Matches ps bytes m rest := by
  have hsplit := split?_append h
  obtain ⟨f, hf, hgroups, hbefore, hmatched, hrest⟩ := split?_eq_some_iff.1 h
  have hle := hf.le
  obtain ⟨p, hp, hpf, hmin⟩ := hf
  have hstart : m.before.length = f.start := by
    rw [hbefore, List.length_take]
    omega
  have hfinish : m.before.length + m.matched.length = f.finish := by
    rw [hstart, hmatched, List.length_drop, List.length_take]
    omega
  refine ⟨hsplit, ⟨p, hp, hstart ▸ (find?_first hps (List.mem_of_getElem? hp) hpf).1,
    by rw [hpf, hfinish, hstart, hgroups]⟩, fun j q i hq hoccurs => ?_⟩
  have hmem := List.mem_of_getElem? hq
  cases hqf : q.find? bytes with
  | none => exact absurd hoccurs ((find?_eq_none_iff hps hmem).1 hqf i)
  | some g =>
    have hgi : g.start ≤ i := Nat.le_of_not_lt fun hlt => (find?_first hps hmem hqf).2 i hlt hoccurs
    obtain ⟨hle, hlt⟩ := hmin j q g hq hqf
    rw [hstart]
    exact ⟨Nat.le_trans hle hgi, fun hj => Nat.lt_of_lt_of_le (hlt hj) hgi⟩

end BoardBench.Pattern
