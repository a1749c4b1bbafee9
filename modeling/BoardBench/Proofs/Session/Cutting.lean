import BoardBench.Proofs.Pattern.Split
import BoardBench.Proofs.Session.Ending
import BoardBench.Proofs.Sim.Delivery
import Mathlib

/-!
# An expectation depends on the stream alone

Of literals none of which stands properly inside another, those that begin earlier also end earlier.
So the first match in the front of a stream is the first match in all of it, and an expectation does
not depend on how much of the stream each read brings, nor on how much of it was buffered before
(`expect_cut`).
-/

namespace BoardBench.Session

open Pattern

variable {δ ε : Type} [Bench δ] [Transport δ] [Bench ε] [Transport ε] {ending : Ending}

/-- The stream fixes the result of an expectation, and what it leaves of the stream. -/
theorem Settles.same {ps : List Pattern} {timeout : Span} {k l : Nat} {stream : Bytes}
    {r : Except Error Match × Session δ} {r' : Except Error Match × Session ε}
    (h : Settles ending ps timeout k stream r) (h' : Settles ending ps timeout l stream r') :
    r'.1 = r.1 := by
  cases h with
  | met hsplit =>
    cases h' with
    | met hsplit' =>
      cases hsplit.symm.trans hsplit'
      rfl
    | unmet hnone => cases hsplit.symm.trans hnone
  | unmet hnone =>
    cases h' with
    | met hsplit' => cases hnone.symm.trans hsplit'
    | unmet => rfl

/-- The match is the first of the needles to stand in the stream, and of those that stand where it
begins the first listed. -/
structure FirstOf (needles : List Bytes) (stream : Bytes) (m : Match) (rest : Bytes) : Prop where
  listed : needles[m.index]? = some m.matched
  groups : m.groups = []
  split : stream = m.before ++ m.matched ++ rest
  first : ∀ (j : Nat) (needle : Bytes) (i : Nat), needles[j]? = some needle → OccursAt needle stream i →
    m.before.length ≤ i ∧ (j < m.index → m.before.length < i)

theorem firstOf_of_split? {needles : List Bytes} {stream rest : Bytes} {m : Match}
    (h : split? (needles.map literal) stream = some (m, rest)) : FirstOf needles stream m rest := by
  obtain ⟨needle, hneedle, hgroups, hmatched, hsplit, hbefore, htie⟩ := split?_literals_iff.1 h
  refine ⟨hmatched ▸ hneedle, hgroups, hmatched ▸ hsplit, fun j needle' i hj hi => ?_⟩
  have hle : m.before.length ≤ i :=
    Nat.le_of_not_lt fun hlt => hbefore needle' (List.mem_of_getElem? hj) i hlt hi
  refine ⟨hle, fun hlt => Nat.lt_of_le_of_ne hle fun heq => ?_⟩
  exact htie j hlt needle' hj (heq ▸ hi)

/-- What comes of the wait for the first of the needles in the stream. -/
inductive Scans (ending : Ending) (needles : List Bytes) (timeout : Span) (stream : Bytes) :
    Except Error Match × Session δ → Prop
  | met {m : Match} {rest : Bytes} {k : Nat} {s' : Session δ} :
      FirstOf needles stream m rest → Offers ending k rest s' →
      Scans ending needles timeout stream (.ok m, s')
  | unmet {s' : Session δ} : (∀ needle ∈ needles, ¬ Occurs needle stream) → s'.buffer = stream →
      Scans ending needles timeout stream
        (.error (ending.error (needles.map literal) timeout stream), s')

theorem Settles.scans {needles : List Bytes} {timeout : Span} {k : Nat} {stream : Bytes}
    {r : Except Error Match × Session δ}
    (h : Settles ending (needles.map literal) timeout k stream r) :
    Scans ending needles timeout stream r := by
  cases h with
  | met hsplit hrest _ => exact .met (firstOf_of_split? hsplit) hrest
  | unmet hsplit hbuffer => exact .unmet (split?_literals_eq_none_iff.1 hsplit) hbuffer

/-- Two sessions that offer the same stream, in whatever pieces, come to the same match or the same
error: the first listed of the needles that stand where one of them first stands in all of the stream,
if one does. -/
theorem expect_cut {needles : List Bytes}
    (hn : ∀ a ∈ needles, ∀ b ∈ needles, a <:+: b → a = b) {timeout : Span} {stream : Bytes}
    {k l : Nat} {s : Session δ} {t : Session ε} (hs : Offers ending k stream s)
    (ht : Offers ending l stream t) (hk : k < timeout.nanos) (hl : l < timeout.nanos) :
    (expect (needles.map literal) timeout t).1 = (expect (needles.map literal) timeout s).1 ∧
      Scans ending needles timeout stream (expect (needles.map literal) timeout s) ∧
      Scans ending needles timeout stream (expect (needles.map literal) timeout t) := by
  have hs' := expect_of_offers (stable_literals hn) hs hk
  have ht' := expect_of_offers (stable_literals hn) ht hl
  exact ⟨hs'.same ht', hs'.scans, ht'.scans⟩

/-- A session that has buffered the front of a prompt, on a board that holds the rest in pieces. -/
def promptSession (pieces : List Bytes) : Session Sim.World :=
  { ofDevice ({ board := { incoming := pieces.map .data } } : Sim.World) with
    buffer := [0x6C, 0x6F] }

theorem offers_promptSession (pieces : List Bytes) :
    Offers .silence 0 ([0x6C, 0x6F] ++ pieces.flatten) (promptSession pieces) :=
  ⟨_, Sim.World.gives (w := (promptSession pieces).device) ⟨rfl, rfl, rfl, rfl, rfl⟩, rfl⟩

theorem expect_cut_prompt :
    let needles : List Bytes := [[0x67, 0x69, 0x6E], [0x6C, 0x6F, 0x67]]
    let stream : Bytes := [0x6C, 0x6F, 0x67, 0x69, 0x6E, 0x3A]
    let s := promptSession [[0x67, 0x69, 0x6E, 0x3A]]
    let t := promptSession [[0x67], [0x69, 0x6E], [0x3A]]
    (∀ a ∈ needles, ∀ b ∈ needles, a <:+: b → a = b) ∧
      Offers .silence 0 stream s ∧ Offers .silence 0 stream t ∧ 0 < (Span.ofMillis 100).nanos ∧
      (expect (needles.map literal) (.ofMillis 100) t).1 =
        (expect (needles.map literal) (.ofMillis 100) s).1 ∧
      (expect (needles.map literal) (.ofMillis 100) s).1 = .ok ⟨1, [], [], [0x6C, 0x6F, 0x67]⟩ := by
  intro needles stream s t
  have hn : ∀ a ∈ needles, ∀ b ∈ needles, a <:+: b → a = b := by decide
  have hs : Offers .silence 0 stream s := offers_promptSession [[0x67, 0x69, 0x6E, 0x3A]]
  have ht : Offers .silence 0 stream t := offers_promptSession [[0x67], [0x69, 0x6E], [0x3A]]
  have htime : 0 < (Span.ofMillis 100).nanos := by decide
  refine ⟨hn, hs, ht, htime, (expect_cut hn hs ht htime htime).1, ?_⟩
  cbv

end BoardBench.Session
