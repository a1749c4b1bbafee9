import BoardBench.Proofs.Session.Failing
import BoardBench.Proofs.Session.Stream

/-!
# Where a port fails

`BreaksOff j e` says that the last of the calls `j` failed, and that the error of that is `e`. A send
that fails has broken off so (`send_breaksOff`). A wait that fails has broken off too, or it found
nothing in all that it has read (`expect_breaksOff`).
-/

namespace BoardBench

/-- A call that failed, and the error of that. -/
inductive Call.Fails : Call → Error → Prop
  | setTimeout {t : Span} {e : Error} : Fails (.setTimeout t (.error e)) e
  | read {f : Fault} : Fails (.read (.error f)) (.io f)
  | write {bytes : Bytes} {f : Fault} : Fails (.write bytes (.error f)) (.io f)
  /-- A write that takes nothing is a failure. -/
  | stuck {bytes : Bytes} :
      Fails (.write bytes (.ok 0)) (.io ⟨.writeZero, "failed to write whole buffer"⟩)
  | flush {f : Fault} : Fails (.flush (.error f)) (.io f)

/-- The last of the calls failed with this error. -/
def Journal.BreaksOff (j : Journal) (e : Error) : Prop := ∃ k call, j = k ++ [call] ∧ call.Fails e

open Journal

theorem Journal.BreaksOff.append {k : Journal} {e : Error} (h : BreaksOff k e) (j : Journal) :
    BreaksOff (j ++ k) e := by
  obtain ⟨l, call, rfl, hcall⟩ := h
  exact ⟨j ++ l, call, (List.append_assoc _ _ _).symm, hcall⟩

namespace Session

variable {δ : Type}

theorem FailsWith.breaksOff {j : Journal} {e : Error} (h : FailsWith j e) : BreaksOff j e := by
  obtain ⟨k, ⟨t, rfl⟩ | ⟨f, rfl, rfl⟩⟩ := h
  · exact ⟨k, _, rfl, .setTimeout⟩
  · exact ⟨k, _, rfl, .read⟩

variable [Bench δ] [Transport δ]

theorem writeLoop_breaksOff (bytes : Bytes) (r : Recorded δ) (f : Fault) :
    (Transport.writeLoop bytes r).1 = .error f →
      BreaksOff (Transport.writeLoop bytes r).2.journal (.io f) := by
  refine Transport.writeLoop_rounds
    (fun _ _ (x : Except Fault Unit × Recorded δ) => x.1 = .error f → BreaksOff x.2.journal (.io f))
    (fun _ => nofun) (fun _ _ _ _ _ _ _ ih => ih) ?failed ?stuck (fun _ _ _ _ _ _ ih => ih) bytes r
  case failed =>
    rintro bytes r g d hw ⟨⟩
    exact ⟨_, _, (Recorded.call_eq_iff.1 hw).2, .write⟩
  case stuck =>
    rintro bytes r d hw ⟨⟩
    exact ⟨_, _, (Recorded.call_eq_iff.1 hw).2, .stuck⟩

theorem writeAll_breaksOff {bytes : Bytes} {r r' : Recorded δ} {e : Error}
    (h : Transport.writeAll bytes r = (.error e, r')) :
    BreaksOff r'.journal e ∧ ∃ f, e = .io f := by
  unfold Transport.writeAll at h
  split at h
  · rename_i f d hloop
    cases h
    have hbreaks := writeLoop_breaksOff bytes r f
    rw [hloop] at hbreaks
    exact ⟨hbreaks rfl, f, rfl⟩
  · split at h
    · rename_i f d hflush
      cases h
      exact ⟨⟨_, _, (Recorded.call_eq_iff.1 hflush).2, .flush⟩, f, rfl⟩
    · cases h

variable {s s' : Session (Recorded δ)} {e : Error}

theorem send_breaksOff {bytes : Bytes} (h : send bytes s = (.error e, s')) :
    BreaksOff s'.device.journal e ∧ ∃ f, e = .io f := by
  obtain hwrite | ⟨_, t, -, hlog⟩ := Act.bind_error_iff.1 h
  · obtain ⟨d, hd, rfl⟩ := Act.zoom_eq_iff.1 hwrite
    exact writeAll_breaksOff hd
  · cases hlog

/-- A wait failed because of the port, or with the error of the stream that it has read. -/
theorem expect_breaksOff {ps : List Pattern} {timeout : Span}
    (h : expect ps timeout s = (.error e, s')) : BreaksOff s'.device.journal e ∨ e.OfStream := by
  obtain ⟨j, -, hexpects⟩ := expect_spec h
  cases hexpects with
  | unmet hc _ hunmet =>
    cases hunmet with
    | silent => exact .inr (.late _ _ _)
    | ended => exact .inr (.ended _ _)
    | failed hfails =>
      left
      rw [hc.journal]
      exact hfails.breaksOff.append _

end Session
end BoardBench
