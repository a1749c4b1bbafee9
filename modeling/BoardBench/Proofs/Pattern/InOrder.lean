import BoardBench.Proofs.Pattern.Split

/-!
# Literals in order

`InOrder needles stream rest` says that the stream is made of the needles, one after the other with
something before each of them, and of `rest`. There may be many such rests. `behindAll?` takes the
first place of each needle, and so it finds the longest of them if there is one
(`behindAll?_eq_some_iff`).
-/

namespace BoardBench

/-- The needles stand in the stream in this order, apart from each other, and `rest` follows them. -/
def InOrder (needles : List Bytes) (stream rest : Bytes) : Prop :=
  ∃ gaps : List Bytes, gaps.length = needles.length ∧
    stream = (List.zipWith (· ++ ·) gaps needles).flatten ++ rest

namespace InOrder

variable {needle stream rest : Bytes} {needles : List Bytes}

theorem nil_iff : InOrder [] stream rest ↔ rest = stream := by
  constructor
  · rintro ⟨gaps, hlen, rfl⟩
    obtain rfl := List.length_eq_zero_iff.1 hlen
    rfl
  · rintro rfl
    exact ⟨[], rfl, rfl⟩

theorem cons_iff : InOrder (needle :: needles) stream rest ↔
    ∃ gap behind, stream = gap ++ needle ++ behind ∧ InOrder needles behind rest := by
  constructor
  · rintro ⟨gaps, hlen, rfl⟩
    cases gaps with
    | nil => cases hlen
    | cons gap gaps =>
      refine ⟨gap, _, ?_, gaps, Nat.succ.inj hlen, rfl⟩
      simp only [List.zipWith_cons_cons, List.flatten_cons, List.append_assoc]
  · rintro ⟨gap, _, rfl, gaps, hlen, rfl⟩
    refine ⟨gap :: gaps, congrArg Nat.succ hlen, ?_⟩
    simp only [List.zipWith_cons_cons, List.flatten_cons, List.append_assoc]

end InOrder

namespace Pattern

/-- What follows the needles, if each is taken where it first stands behind the one before it. -/
def behindAll? : List Bytes → Bytes → Option Bytes
  | [], stream => some stream
  | needle :: needles, stream =>
    match split? [literal needle] stream with
    | some (_, behind) => behindAll? needles behind
    | none => none

variable {needle stream rest : Bytes} {needles : List Bytes}

theorem behindAll?_cons_of_some {m : Match} {behind : Bytes}
    (h : split? [literal needle] stream = some (m, behind)) :
    behindAll? (needle :: needles) stream = behindAll? needles behind := by
  simp only [behindAll?, h]

theorem behindAll?_cons_of_none (h : split? [literal needle] stream = none) :
    behindAll? (needle :: needles) stream = none := by
  simp only [behindAll?, h]

theorem behindAll?_inOrder (h : behindAll? needles stream = some rest) :
    InOrder needles stream rest := by
  induction needles generalizing stream with
  | nil => exact InOrder.nil_iff.2 (Option.some.inj h).symm
  | cons needle needles ih =>
    cases hsplit : split? [literal needle] stream with
    | none =>
      rw [behindAll?_cons_of_none hsplit] at h
      cases h
    | some r =>
      obtain ⟨m, behind⟩ := r
      rw [behindAll?_cons_of_some hsplit] at h
      exact InOrder.cons_iff.2 ⟨m.before, behind, (split?_literal_iff.1 hsplit).2.1, ih h⟩

/-- The first place of a needle leaves at least what any other place of it leaves. -/
theorem split?_of_stands {before behind : Bytes} (h : stream = before ++ needle ++ behind) :
    ∃ m rest, split? [literal needle] stream = some (m, rest) ∧ behind <:+ rest := by
  have hat : OccursAt needle stream before.length := ⟨before, behind, h, rfl⟩
  cases hsplit : split? [literal needle] stream with
  | none =>
    have hnone : ∀ n ∈ [needle], ¬ Occurs n stream := split?_literals_eq_none_iff.1 hsplit
    exact absurd ⟨_, hat⟩ (hnone needle List.mem_cons_self)
  | some r =>
    obtain ⟨m, rest⟩ := r
    obtain ⟨-, hrest, hfirst⟩ := split?_literal_iff.1 hsplit
    have hbefore : m.before.length ≤ before.length :=
      Nat.le_of_not_lt fun hlt => hfirst _ hlt hat
    refine ⟨m, rest, rfl, List.suffix_of_suffix_length_le ⟨_, h.symm⟩ ⟨_, hrest.symm⟩ ?_⟩
    have hlength := congrArg List.length (h.symm.trans hrest)
    simp only [List.length_append] at hlength
    omega

/-- The exchange: needles that can be placed in the end of a stream are placed in all of it, and not
further back. -/
theorem behindAll?_of_inOrder {part : Bytes} (h : InOrder needles part rest) (hpart : part <:+ stream) :
    ∃ most, behindAll? needles stream = some most ∧ rest <:+ most := by
  induction needles generalizing part stream with
  | nil =>
    obtain rfl := InOrder.nil_iff.1 h
    exact ⟨stream, rfl, hpart⟩
  | cons needle needles ih =>
    obtain ⟨gap, behind, rfl, hin⟩ := InOrder.cons_iff.1 h
    obtain ⟨front, rfl⟩ := hpart
    have hstands : front ++ (gap ++ needle ++ behind) = front ++ gap ++ needle ++ behind := by
      simp only [List.append_assoc]
    obtain ⟨m, left, hsplit, hbehind⟩ := split?_of_stands hstands
    rw [behindAll?_cons_of_some hsplit]
    exact ih hin hbehind

/-- Taking each needle as early as possible leaves the longest rest. -/
theorem behindAll?_eq_some_iff : behindAll? needles stream = some rest ↔
    InOrder needles stream rest ∧ ∀ other, InOrder needles stream other → other <:+ rest := by
  constructor
  · intro h
    refine ⟨behindAll?_inOrder h, fun other hother => ?_⟩
    obtain ⟨most, hmost, hsuffix⟩ := behindAll?_of_inOrder hother List.suffix_rfl
    cases h.symm.trans hmost
    exact hsuffix
  · rintro ⟨hin, hlongest⟩
    obtain ⟨most, hmost, hsuffix⟩ := behindAll?_of_inOrder hin List.suffix_rfl
    have heq := hsuffix.eq_of_length_le (hlongest most (behindAll?_inOrder hmost)).length_le
    rw [hmost, heq]

theorem behindAll?_eq_none_iff :
    behindAll? needles stream = none ↔ ∀ rest, ¬ InOrder needles stream rest := by
  constructor
  · intro h rest hin
    obtain ⟨most, hmost, -⟩ := behindAll?_of_inOrder hin List.suffix_rfl
    cases h.symm.trans hmost
  · intro h
    cases hbehind : behindAll? needles stream with
    | none => rfl
    | some rest => exact absurd (behindAll?_inOrder hbehind) (h rest)

end Pattern
end BoardBench
