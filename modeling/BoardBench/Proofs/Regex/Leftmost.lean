import BoardBench.Regex.Library

/-!
# The first match is found

The matches of an expression lead from a place of the bytes to one of the ends that it has there
(`Parsed.Matches`). The search goes through the places in order, so what it finds is a match that begins
first, and it finds one if there is any (`Parsed.leftmost`).
-/

namespace BoardBench.Regex

theorem searchFrom_eq_none {n : Node} {c : Cursor} (h : searchFrom n c.pos c.passed c.rest = none) :
    ∀ pre rest, c.rest = pre ++ rest → n.ends (c.behind pre rest) [] = [] := by
  rcases c with ⟨pos, passed, bytes⟩
  induction bytes generalizing pos passed with
  | nil =>
    intro pre rest hrest
    obtain ⟨rfl, rfl⟩ := List.append_eq_nil_iff.1 hrest.symm
    cases hends : n.ends ⟨pos, passed, []⟩ [] with
    | nil => exact hends
    | cons e es => cases h.symm.trans (searchFrom_of_ends hends)
  | cons b bytes ih =>
    cases hends : n.ends ⟨pos, passed, b :: bytes⟩ [] with
    | cons e es => cases h.symm.trans (searchFrom_of_ends hends)
    | nil =>
      intro pre rest hrest
      cases pre with
      | nil =>
        obtain rfl : b :: bytes = rest := hrest
        exact hends
      | cons b' pre =>
        obtain ⟨rfl, hbytes⟩ := List.cons.inj hrest
        have hnext : searchFrom n (pos + 1) (b :: passed) bytes = none := by
          simpa only [searchFrom, hends] using h
        have hbehind : (⟨pos, passed, b :: bytes⟩ : Cursor).behind (b :: pre) rest =
            (⟨pos + 1, b :: passed, bytes⟩ : Cursor).behind pre rest :=
          (Cursor.behind_behind ⟨pos, passed, b :: bytes⟩ [b] pre bytes rest).symm
        rw [hbehind]
        exact ih (pos + 1) (b :: passed) hnext pre rest hbytes

/-- The place behind `pre` and before `rest`. -/
def Cursor.between (pre rest : Bytes) : Cursor := ⟨pre.length, pre.reverse, rest⟩

theorem Cursor.start_behind (bytes pre rest : Bytes) :
    (Cursor.start bytes).behind pre rest = .between pre rest := by
  simp [Cursor.start, Cursor.behind, Cursor.between]

namespace Parsed

/-- The matches of the expression in the bytes. -/
inductive Matches (p : Parsed) : Bytes → Captures → Prop
  | mk {pre rest : Bytes} {e : Cursor} {caught : Caught} :
      (e, caught) ∈ p.node.ends (.between pre rest) [] →
      Matches p (pre ++ rest) ⟨pre.length, e.pos, p.groups ⟨.between pre rest, e, caught⟩⟩

/-- What is found is a match, and none begins before it. -/
theorem captures_eq_some {p : Parsed} {bytes : Bytes} {c : Captures} (h : p.captures bytes = some c) :
    p.Matches bytes c ∧
      ∀ pre rest, bytes = pre ++ rest → pre.length < c.start → p.node.ends (.between pre rest) [] = [] := by
  obtain ⟨⟨start, finish, caught⟩, hhit, rfl⟩ := Option.map_eq_some_iff.1 h
  obtain ⟨pre, rest, hrest, hstart, ⟨es, hes⟩, hnone⟩ := (searchFrom_eq_some_iff (c := .start bytes)).1 hhit
  obtain rfl : bytes = pre ++ rest := hrest
  obtain rfl : start = .between pre rest := hstart.trans (Cursor.start_behind _ _ _)
  refine ⟨.mk (hes ▸ List.mem_cons_self), fun pre' rest' heq hlt => ?_⟩
  obtain ⟨gap, rfl, rfl⟩ | ⟨gap, rfl, rfl⟩ := List.append_eq_append_iff.1 heq
  · exact absurd hlt (by simp [Cursor.between])
  · have hgap : gap ≠ [] := by
      rintro rfl
      exact absurd hlt (by simp [Cursor.between])
    have hends := hnone pre' gap rfl hgap
    rwa [Cursor.start_behind] at hends

theorem captures_eq_none {p : Parsed} {bytes : Bytes} (h : p.captures bytes = none) (c : Captures) :
    ¬ p.Matches bytes c := by
  rintro ⟨he⟩
  rename_i pre rest e caught
  have hends := searchFrom_eq_none (c := .start (pre ++ rest)) (Option.map_eq_none_iff.1 h) pre rest rfl
  rw [Cursor.start_behind] at hends
  rw [hends] at he
  cases he

/-- Of its matches an expression finds one that begins first. -/
theorem leftmost (p : Parsed) : p.compiled.Leftmost p.Matches where
  found _ _ h := (captures_eq_some h).1
  first _ c _ h hmatch := by
    cases hmatch with
    | @mk pre rest e caught he =>
      refine Nat.le_of_not_lt fun hlt => ?_
      rw [(captures_eq_some h).2 pre rest rfl hlt] at he
      cases he
  complete bytes c hmatch := by
    cases h : p.captures bytes with
    | none => exact absurd hmatch (captures_eq_none h c)
    | some c' => exact congrArg Option.isSome h

end Parsed

/-- The matches of the expressions that the library compiles. -/
def library.Matches (re : Regex) (bytes : Bytes) (c : Captures) : Prop :=
  ∃ p : Parsed, p.compiled = re ∧ p.Matches bytes c

theorem library_leftmost {source : String} {re : Regex} (h : library.compile source = .ok re) :
    re.Leftmost (library.Matches re) := by
  have hmap : (read source).map Parsed.compiled = .ok re := h
  cases hread : read source with
  | error e => rw [hread] at hmap; cases hmap
  | ok p =>
    rw [hread] at hmap
    obtain rfl := Except.ok.inj hmap
    refine ⟨fun bytes c hc => ⟨p, rfl, p.leftmost.found bytes c hc⟩, ?_, ?_⟩
    · rintro bytes c c' hc ⟨q, hq, hmatch⟩
      exact (hq ▸ q.leftmost).first bytes c c' hc hmatch
    · rintro bytes c ⟨q, hq, hmatch⟩
      exact (hq ▸ q.leftmost).complete bytes c hmatch

end BoardBench.Regex
