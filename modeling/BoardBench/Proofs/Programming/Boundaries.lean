import BoardBench.Proofs.Programming.Staging

/-!
# Page boundaries

Rounding up to a page gives a multiple of the size of a page, or the last address where there is no page
left (`nextPage_dvd`). So the regions of applications begin on page boundaries with two exceptions: the
first begins where the window does, and an empty one may begin at the last address
(`start_of_mem_tail`).
-/

namespace BoardBench

open Bootloader Chronicle

theorem nextPage_dvd (address : Nat) :
    pageSize ∣ nextPage address ∨ nextPage address = addressBound - 1 := by
  unfold nextPage
  extract_lets up
  by_cases hup : up < addressBound
  · rw [if_pos hup]
    exact .inl (Nat.dvd_mul_left _ _)
  · rw [if_neg hup]
    exact .inr rfl

theorem last_address_not_dvd : ¬ pageSize ∣ addressBound - 1 := by
  unfold pageSize addressBound
  omega

/-- An application that is staged at the last address is empty, and its window ends there. -/
structure Region.Topmost (r : Region) (finish : Nat) : Prop where
  start : r.start = addressBound - 1
  size : r.size = 0
  finish : finish = addressBound - 1

theorem length_layout (offset : Nat) (sizes : List Nat) :
    (layout offset sizes).length = sizes.length := by
  induction sizes generalizing offset with
  | nil => rfl
  | cons size sizes ih => exact congrArg (· + 1) (ih _)

section

variable {finish : Nat} (hfinish : finish < addressBound)

include hfinish

/-- Regions that begin where an address was rounded up. -/
theorem start_of_mem_fitting (address : Nat) (sizes : List Nat) :
    ∀ r ∈ fitting finish (layout (nextPage address) sizes), pageSize ∣ r.start ∨ r.Topmost finish := by
  induction sizes generalizing address with
  | nil => exact fun _ hr => absurd hr List.not_mem_nil
  | cons size sizes ih =>
    intro r hr
    by_cases hfits : nextPage address + size ≤ finish
    · rw [layout, fitting_cons_of_fits hfits] at hr
      rcases List.mem_cons.1 hr with rfl | hr
      · rcases nextPage_dvd address with hpage | hlast
        · exact .inl hpage
        · exact .inr ⟨hlast, by dsimp only; omega, by omega⟩
      · exact ih _ r hr
    · rw [layout, fitting_cons_of_misfits (Nat.lt_of_not_le hfits)] at hr
      cases hr

/-- All regions but the first begin on page boundaries or at the last address. -/
theorem start_of_mem_tail (offset : Nat) (sizes : List Nat) :
    ∀ r ∈ (fitting finish (layout offset sizes)).tail, pageSize ∣ r.start ∨ r.Topmost finish := by
  cases sizes with
  | nil => exact fun _ hr => absurd hr List.not_mem_nil
  | cons size sizes =>
    by_cases hfits : offset + size ≤ finish
    · rw [layout, fitting_cons_of_fits hfits]
      exact start_of_mem_fitting hfinish _ sizes
    · rw [layout, fitting_cons_of_misfits (Nat.lt_of_not_le hfits)]
      exact fun _ hr => absurd hr List.not_mem_nil

/-- All regions begin on page boundaries if and only if the first does and none begins at the last
address. -/
theorem starts_on_pages_iff (offset : Nat) (sizes : List Nat) :
    let fit := fitting finish (layout offset sizes)
    (∀ r ∈ fit, pageSize ∣ r.start) ↔
      (fit ≠ [] → pageSize ∣ offset) ∧ ∀ r ∈ fit.tail, ¬ r.Topmost finish := by
  have htail := start_of_mem_tail hfinish offset sizes
  have hhead (r : Region) : r ∈ (fitting finish (layout offset sizes)).head? → r.start = offset :=
    head_fitting_layout
  intro fit
  change ∀ r ∈ fit.tail, _ at htail
  change ∀ r, r ∈ fit.head? → _ at hhead
  clear_value fit
  cases fit with
  | nil => simp
  | cons first rest =>
    have hfirst : first.start = offset := hhead first rfl
    rw [List.tail_cons] at htail ⊢
    constructor
    · intro hall
      refine ⟨fun _ => hfirst ▸ hall first List.mem_cons_self, fun r hr htop => ?_⟩
      exact last_address_not_dvd (htop.start ▸ hall r (List.mem_cons_of_mem _ hr))
    · rintro ⟨hoffset, hnone⟩ r hr
      rcases List.mem_cons.1 hr with rfl | hr
      · rw [hfirst]
        exact hoffset (List.cons_ne_nil _ _)
      · exact (htail r hr).resolve_right (hnone r hr)

end

example : (fitting (addressBound - 1) (layout 0xFFFFFFFFFFFFF000 [0x10, 0])).map (·.start) =
    [0xFFFFFFFFFFFFF000, addressBound - 1] := by decide

variable {δ : Type} [Bench δ] [Transport δ] [Processes δ] [Files δ]

/-- A window that ends before the last address is loaded into. -/
theorem load_of_lt {w : RamWindow} (hend : w.offset + w.size < addressBound) (server : HelperSpec)
    (copyTimeout : Span) (app : AppSpec) (rest : List AppSpec) (c : Client δ) :
    (Loader.ofWindow w server copyTimeout).load (app :: rest) c =
      loadInto w (w.offset + w.size) server copyTimeout (app :: rest) c := by
  rw [load_cons, RamWindow.end?, if_pos hend]
  rfl

/-- Where the applications that are loaded begin. Of what is to be copied into the memory and named, the
first begins where the window does. Each next one begins on a page boundary, except that an empty one
begins at the last address if the window ends there and no page is left. So all begin on page boundaries
exactly if the window does and none begins at the last address. -/
theorem load_starts_on_pages (w : RamWindow) (server : HelperSpec) (copyTimeout : Span)
    (apps : List AppSpec) (c : Client δ) :
    let load := (Loader.ofWindow w server copyTimeout).load apps
    match apps, w.end? with
    | [], _ => load c = (.ok (), c)
    | _, .error e => load c = (.error e, c)
    | apps, .ok finish =>
      let run := (Loader.ofWindow w server copyTimeout).load apps c.chronicled
      let done := run.2.session.device.entries
      load c = (run.1, run.2.bare) ∧
      ∃ sizes, Loads δ w finish server copyTimeout apps sizes done run.1 ∧
        let fit := fitting finish (layout w.offset sizes)
        done.written <+: linesOf w.device apps fit ∧
        (run.1 = .ok () → fit.length = apps.length ∧ done.written = linesOf w.device apps fit) ∧
        (∀ r ∈ fit.head?, r.start = w.offset) ∧
        (∀ r ∈ fit.tail, pageSize ∣ r.start ∨ r.Topmost finish) ∧
        ((∀ r ∈ fit, pageSize ∣ r.start) ↔
          (fit ≠ [] → pageSize ∣ w.offset) ∧ ∀ r ∈ fit.tail, ¬ r.Topmost finish) := by
  intro load
  cases apps with
  | nil => rfl
  | cons app rest =>
    unfold RamWindow.end?
    by_cases hend : w.offset + w.size < addressBound
    · rw [if_pos hend]
      dsimp only
      have hrun := load_of_lt hend server copyTimeout app rest c.chronicled
      obtain ⟨⟨sizes, hsizes⟩, -⟩ := loadInto_run hrun.symm
      refine ⟨?_, sizes, hsizes, hsizes.written, fun hok => ?_, fun _ => head_fitting_layout,
        start_of_mem_tail hend w.offset sizes, starts_on_pages_iff hend w.offset sizes⟩
      · rw [hrun]
        exact (load_of_lt hend server copyTimeout app rest c).trans
          (loadInto_mirrors w _ server copyTimeout (app :: rest) c.chronicled)
      · obtain ⟨hlength, hall, hwritten⟩ := (hok ▸ hsizes).full
        rw [hall]
        exact ⟨(length_layout _ _).trans hlength, hwritten⟩
    · rw [if_neg hend]
      show (Loader.ofWindow w server copyTimeout).load (app :: rest) c = _
      rw [load_cons, RamWindow.end?, if_neg hend]
      rfl

end BoardBench
