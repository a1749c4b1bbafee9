import BoardBench.Target.Programming
import Mathlib.Data.List.Chain
import Mathlib.Data.List.TakeWhile

/-!
# Regions of the memory

Applications of known sizes are laid out in regions that lie one after the other, each from the first
page boundary after the one before it (`layout`). Those of them that fit below an end do not overlap and
leave less than a page unused between them (`layout_fits`).
-/

namespace BoardBench

/-- A part of the memory. -/
structure Region where
  start : Nat
  size : Nat

namespace Region

/-- The first address after the region. -/
def stop (r : Region) : Nat := r.start + r.size

/-- The second region begins after the first, and within a page from its end. -/
structure Adjoins (r r' : Region) : Prop where
  after : r.stop ≤ r'.start
  near : r'.start - r.stop < pageSize

/-- The first region ends before the second begins. -/
def Precedes (r r' : Region) : Prop := r.stop ≤ r'.start

instance : Trans Precedes Precedes Precedes where
  trans {a b c} hab hbc := by
    unfold Precedes stop at *
    omega

/-- All addresses of the first region are addresses of the second. -/
def Within (r r' : Region) : Prop := ∀ a, r.start ≤ a → a < r.stop → r'.start ≤ a ∧ a < r'.stop

theorem within_iff {r r' : Region} :
    r.Within r' ↔ r.size = 0 ∨ r'.start ≤ r.start ∧ r.stop ≤ r'.stop := by
  constructor
  · intro h
    rcases Nat.eq_zero_or_pos r.size with hempty | hpos
    · exact .inl hempty
    · have hfirst := h r.start (Nat.le_refl _) (Nat.lt_add_of_pos_right hpos)
      have hlast := h (r.stop - 1) (by unfold stop; omega) (by unfold stop; omega)
      exact .inr ⟨hfirst.1, by omega⟩
  · rintro (hempty | ⟨hstart, hstop⟩) a hle hlt
    · unfold stop at hlt
      omega
    · omega

end Region

theorem le_nextPage {address : Nat} (h : address < addressBound) : address ≤ nextPage address := by
  unfold nextPage pageSize
  extract_lets up
  by_cases hup : up < addressBound
  · rw [if_pos hup]
    omega
  · rw [if_neg hup]
    omega

theorem nextPage_near (address : Nat) : nextPage address - address < pageSize := by
  unfold nextPage pageSize
  extract_lets up
  by_cases hup : up < addressBound
  · rw [if_pos hup]
    omega
  · rw [if_neg hup]
    omega

/-- The regions of applications of these sizes, the first of them at `offset`. -/
def layout : Nat → List Nat → List Region
  | _, [] => []
  | offset, size :: sizes => ⟨offset, size⟩ :: layout (nextPage (offset + size)) sizes

/-- The regions up to the first that does not fit. -/
def fitting (finish : Nat) (rs : List Region) : List Region := rs.takeWhile fun r => r.stop ≤ finish

section

variable {finish offset size : Nat} {sizes : List Nat} {rs : List Region} {r : Region}

theorem fitting_cons_of_fits (h : offset + size ≤ finish) :
    fitting finish (⟨offset, size⟩ :: rs) = ⟨offset, size⟩ :: fitting finish rs :=
  List.takeWhile_cons_of_pos (decide_eq_true h)

theorem fitting_cons_of_misfits (h : finish < offset + size) :
    fitting finish (⟨offset, size⟩ :: rs) = [] :=
  List.takeWhile_cons_of_neg fun hfits => Nat.not_le_of_lt h (of_decide_eq_true hfits)

theorem stop_le_of_mem_fitting (h : r ∈ fitting finish rs) : r.stop ≤ finish :=
  of_decide_eq_true (List.mem_takeWhile_imp (p := fun r : Region => r.stop ≤ finish) h)

theorem head_fitting_layout (h : r ∈ (fitting finish (layout offset sizes)).head?) :
    r.start = offset := by
  cases sizes with
  | nil => cases h
  | cons size sizes =>
    by_cases hfits : offset + size ≤ finish
    · rw [layout, fitting_cons_of_fits hfits] at h
      cases h
      rfl
    · rw [layout, fitting_cons_of_misfits (Nat.lt_of_not_le hfits)] at h
      cases h

theorem chain_fitting_layout (hfinish : finish < addressBound) (offset : Nat) (sizes : List Nat) :
    (fitting finish (layout offset sizes)).IsChain Region.Adjoins := by
  induction sizes generalizing offset with
  | nil => exact .nil
  | cons size sizes ih =>
    by_cases hfits : offset + size ≤ finish
    · rw [layout, fitting_cons_of_fits hfits]
      refine List.isChain_cons.2 ⟨fun r hr => ?_, ih _⟩
      have hstart : r.start = nextPage (offset + size) := head_fitting_layout hr
      refine ⟨?_, ?_⟩ <;> rw [hstart]
      · exact le_nextPage (Nat.lt_of_le_of_lt hfits hfinish)
      · exact nextPage_near _
    · rw [layout, fitting_cons_of_misfits (Nat.lt_of_not_le hfits)]
      exact .nil

/-- The regions that fit begin at the offset, adjoin each other and do not overlap. -/
theorem layout_fits (hfinish : finish < addressBound) (offset : Nat) (sizes : List Nat) :
    let rs := fitting finish (layout offset sizes)
    (∀ r ∈ rs.head?, r.start = offset) ∧ rs.IsChain Region.Adjoins ∧ rs.Pairwise Region.Precedes ∧
      ∀ r ∈ rs, r.stop ≤ finish := by
  have hchain := chain_fitting_layout hfinish offset sizes
  refine ⟨fun _ => head_fitting_layout, hchain, ?_, fun _ => stop_le_of_mem_fitting⟩
  exact (hchain.imp fun _ _ h => h.after).pairwise

end

end BoardBench
