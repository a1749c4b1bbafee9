import BoardBench.Pattern
import BoardBench.Proofs.Occurrence

/-!
# Earliest matches

`Earliest ps bytes i f` says that of all that the patterns find in the bytes, `f` begins first, and
that of the patterns whose match begins there the `i`-th is the first listed. It is what `earliest?`
computes (`earliest?_eq_some_iff`).

A list of patterns is stable if a match found in the front of a stream is the one found in all of it
(`Stable`). Literals are stable together if none stands properly inside another.
-/

namespace BoardBench.Pattern

/-- Of all that the patterns find, `f` begins first, and the `i`-th is the first to find it. -/
def Earliest (ps : List Pattern) (bytes : Bytes) (i : Nat) (f : Found) : Prop :=
  ∃ p, ps[i]? = some p ∧ p.find? bytes = some f ∧
    ∀ j q g, ps[j]? = some q → q.find? bytes = some g →
      f.start ≤ g.start ∧ (j < i → f.start < g.start)

theorem Earliest.unique {ps : List Pattern} {bytes : Bytes} {i j : Nat} {f g : Found}
    (hf : Earliest ps bytes i f) (hg : Earliest ps bytes j g) : i = j ∧ f = g := by
  obtain ⟨p, hp, hpf, hfmin⟩ := hf
  obtain ⟨q, hq, hqg, hgmin⟩ := hg
  have h1 := hfmin j q g hq hqg
  have h2 := hgmin i p f hp hpf
  have hij : i = j := by
    rcases Nat.lt_trichotomy i j with h | h | h
    · have := h2.2 h
      omega
    · exact h
    · have := h1.2 h
      omega
  subst hij
  rw [hp] at hq
  cases hq
  rw [hpf] at hqg
  exact ⟨rfl, Option.some.inj hqg⟩

/-- What is found begins before it ends, and ends within the bytes. -/
theorem find?_le {p : Pattern} {bytes : Bytes} {f : Found} (h : p.find? bytes = some f) :
    f.start ≤ f.finish ∧ f.finish ≤ bytes.length := by
  cases p with
  | literal needle =>
    obtain ⟨i, hi, rfl⟩ := Option.map_eq_some_iff.1 h
    exact ⟨Nat.le_add_right _ _, (Bytes.indexOf?_eq_some_iff.1 hi).1.length_le⟩
  | regex re =>
    obtain ⟨c, hc, rfl⟩ := Option.map_eq_some_iff.1 h
    exact re.within bytes c hc

theorem earliestFrom_eq_none {k : Nat} {bytes : Bytes} {ps : List Pattern}
    (h : earliestFrom k bytes ps = none) : ∀ p ∈ ps, p.find? bytes = none := by
  induction ps generalizing k with
  | nil => exact fun p hp => nomatch hp
  | cons p ps ih =>
    simp only [earliestFrom] at h
    split at h
    · cases h
    · rename_i hp
      intro q hq
      rcases List.mem_cons.1 hq with rfl | hq
      · exact hp
      · exact ih h q hq

theorem earliestFrom_eq_some {k i : Nat} {f : Found} {bytes : Bytes} {ps : List Pattern}
    (h : earliestFrom k bytes ps = some (i, f)) : ∃ n, i = k + n ∧ Earliest ps bytes n f := by
  induction ps generalizing k i f with
  | nil => cases h
  | cons p ps ih =>
    simp only [earliestFrom] at h
    split at h
    · rename_i f₀ hp
      cases hrest : earliestFrom (k + 1) bytes ps with
      | none =>
        rw [hrest] at h
        cases h
        refine ⟨0, rfl, p, rfl, hp, fun j q g hq hqg => ?_⟩
        cases j with
        | zero =>
          cases hq
          rw [hp] at hqg
          cases hqg
          exact ⟨Nat.le_refl _, fun h => absurd h (Nat.lt_irrefl _)⟩
        | succ j =>
          rw [earliestFrom_eq_none hrest q (List.mem_of_getElem? hq)] at hqg
          cases hqg
      | some r =>
        obtain ⟨i', f'⟩ := r
        obtain ⟨n, hn, q', hq', hqf', hmin⟩ := ih hrest
        rw [hrest] at h
        simp only [better] at h
        split at h
        · rename_i hlt
          cases h
          refine ⟨n + 1, by omega, q', hq', hqf', fun j q g hq hqg => ?_⟩
          cases j with
          | zero =>
            cases hq
            rw [hp] at hqg
            cases hqg
            exact ⟨Nat.le_of_lt hlt, fun _ => hlt⟩
          | succ j =>
            have := hmin j q g hq hqg
            exact ⟨this.1, fun h => this.2 (by omega)⟩
        · rename_i hle
          cases h
          refine ⟨0, rfl, p, rfl, hp, fun j q g hq hqg => ?_⟩
          cases j with
          | zero =>
            cases hq
            rw [hp] at hqg
            cases hqg
            exact ⟨Nat.le_refl _, fun h => absurd h (Nat.lt_irrefl _)⟩
          | succ j =>
            have := hmin j q g hq hqg
            exact ⟨by omega, fun h => absurd h (Nat.not_lt_zero _)⟩
    · rename_i hp
      obtain ⟨n, hn, q', hq', hqf', hmin⟩ := ih h
      refine ⟨n + 1, by omega, q', hq', hqf', fun j q g hq hqg => ?_⟩
      cases j with
      | zero =>
        cases hq
        rw [hp] at hqg
        cases hqg
      | succ j =>
        have := hmin j q g hq hqg
        exact ⟨this.1, fun h => this.2 (by omega)⟩

theorem earliest?_eq_none_iff {ps : List Pattern} {bytes : Bytes} :
    earliest? ps bytes = none ↔ ∀ p ∈ ps, p.find? bytes = none := by
  refine ⟨earliestFrom_eq_none, fun h => ?_⟩
  cases hr : earliest? ps bytes with
  | none => rfl
  | some r =>
    obtain ⟨n, -, p, hp, hpf, -⟩ := earliestFrom_eq_some hr
    rw [h p (List.mem_of_getElem? hp)] at hpf
    cases hpf

theorem earliest?_eq_some_iff {ps : List Pattern} {bytes : Bytes} {i : Nat} {f : Found} :
    earliest? ps bytes = some (i, f) ↔ Earliest ps bytes i f := by
  constructor
  · intro h
    obtain ⟨n, hn, he⟩ := earliestFrom_eq_some h
    rw [Nat.zero_add] at hn
    exact hn ▸ he
  · intro h
    cases hr : earliest? ps bytes with
    | none =>
      obtain ⟨p, hp, hpf, -⟩ := h
      rw [earliest?_eq_none_iff.1 hr p (List.mem_of_getElem? hp)] at hpf
      cases hpf
    | some r =>
      obtain ⟨j, g⟩ := r
      obtain ⟨n, hn, he⟩ := earliestFrom_eq_some hr
      obtain ⟨rfl, rfl⟩ := he.unique h
      rw [hn, Nat.zero_add]

theorem earliest?_singleton (p : Pattern) (bytes : Bytes) :
    earliest? [p] bytes = (p.find? bytes).map fun f => (0, f) := by
  unfold earliest? earliestFrom earliestFrom
  cases p.find? bytes <;> rfl

/-! ## Literals -/

theorem find?_literal_iff {needle bytes : Bytes} {f : Found} :
    (literal needle).find? bytes = some f ↔
      FirstAt needle bytes f.start ∧ f.finish = f.start + needle.length ∧ f.groups = [] := by
  simp only [find?, Option.map_eq_some_iff, indexOf?_eq_some_iff_firstAt]
  constructor
  · rintro ⟨i, hi, rfl⟩
    exact ⟨hi, rfl, rfl⟩
  · rintro ⟨hi, hf, hg⟩
    exact ⟨f.start, hi, by rw [← hf, ← hg]⟩

/-! ## Stable lists -/

/-- What is found in the front of a stream is what is found in all of it. -/
def Stable (ps : List Pattern) : Prop :=
  ∀ bytes more r, earliest? ps bytes = some r → earliest? ps (bytes ++ more) = some r

theorem stable_singleton {p : Pattern}
    (h : ∀ bytes more f, p.find? bytes = some f → p.find? (bytes ++ more) = some f) :
    Stable [p] := by
  intro bytes more r hr
  rw [earliest?_singleton] at hr ⊢
  obtain ⟨f, hf, rfl⟩ := Option.map_eq_some_iff.1 hr
  rw [h bytes more f hf]
  rfl

/-- Literals none of which stands properly inside another. -/
theorem stable_literals {needles : List Bytes}
    (h : ∀ a ∈ needles, ∀ b ∈ needles, a <:+: b → a = b) : Stable (needles.map literal) := by
  rintro bytes more ⟨i, f⟩ hr
  rw [earliest?_eq_some_iff] at hr ⊢
  obtain ⟨p, hp, hpf, hmin⟩ := hr
  obtain ⟨a, ha, rfl⟩ := List.mem_map.1 (List.mem_of_getElem? hp)
  obtain ⟨haf, hfin, hgr⟩ := find?_literal_iff.1 hpf
  have hle := haf.1.length_le
  refine ⟨literal a, hp, find?_literal_iff.2 ⟨haf.append more, hfin, hgr⟩, fun j q g hq hqg => ?_⟩
  obtain ⟨b, hb, rfl⟩ := List.mem_map.1 (List.mem_of_getElem? hq)
  obtain ⟨hbg, hgfin, hggr⟩ := find?_literal_iff.1 hqg
  by_cases hin : g.start + b.length ≤ bytes.length
  · -- the other literal was complete in the front already
    have hfirst : FirstAt b bytes g.start :=
      ⟨hbg.1.of_append hin, fun k hk hko => hbg.2 k hk (hko.append more)⟩
    exact hmin j _ g hq (find?_literal_iff.2 ⟨hfirst, hgfin, hggr⟩)
  · -- it ends in what follows, so if it began no later it would hold `a` in it
    have hlt : f.start < g.start := by
      refine Nat.lt_of_not_le fun hge => ?_
      obtain ⟨x, y, hxy, hx⟩ := hbg.1
      have hsub : a <+: b.drop (f.start - g.start) := by
        have hd : (bytes ++ more).drop f.start = b.drop (f.start - g.start) ++ y := by
          rw [hxy, List.append_assoc, List.drop_append, ← hx,
            List.drop_eq_nil_of_le (by omega), List.nil_append, List.drop_append_of_le_length (by omega)]
        have ha' : a <+: (bytes ++ more).drop f.start := (Bytes.occursAt_iff.1 (haf.1.append more)).2
        rw [hd] at ha'
        exact List.prefix_of_prefix_length_le ha' (List.prefix_append _ _)
          (by rw [List.length_drop]; omega)
      have hab := h a ha b hb (hsub.isInfix.trans (List.drop_suffix _ b).isInfix)
      subst hab
      omega
    exact ⟨Nat.le_of_lt hlt, fun _ => hlt⟩

theorem stable_literal (needle : Bytes) : Stable [literal needle] := by
  show Stable ([needle].map literal)
  refine stable_literals fun a ha b hb _ => ?_
  rw [List.mem_singleton.1 ha, List.mem_singleton.1 hb]

end BoardBench.Pattern
