import BoardBench.Machine.Processes
import BoardBench.Sim.Libraries

/-!
# Mortal processes

A process is waited for by looking for its end again and again (`ExitProbe.waitFor`): who has not seen it
has waited for all of the time (`ExitProbe.le_of_waitSince`), and who has sees it from then on. What is taken
for granted of a process is that its end is not undone and that it does not survive being killed
(`Processes.Mortal`).
-/

namespace BoardBench

variable {δ : Type} [Bench δ]

namespace ExitProbe

/-- `P` holds of `d'`, and the process has ended there if it had on `d`. -/
structure Follows (p : ExitProbe δ) (P : δ → Prop) (d d' : δ) : Prop where
  holds : P d'
  ended : ∀ status, (p.look d).1 = some status → (p.look d').1 = some status

variable {p : ExitProbe δ} {P : δ → Prop} {d d' d'' : δ} {limit : Span} {start : Nat}
  {status : ExitStatus}

theorem Follows.refl (hd : P d) : p.Follows P d d := ⟨hd, fun _ => id⟩

theorem Follows.trans (h : p.Follows P d d') (h' : p.Follows P d' d'') : p.Follows P d d'' :=
  ⟨h'.holds, fun status hd => h'.ended status (h.ended status hd)⟩

theorem waitSince_of_look (h : p.look d = (some status, d')) :
    p.waitSince limit start d = (some status, d') := by
  rw [waitSince]
  split <;> rename_i heq <;> cases h.symm.trans heq
  rfl

/-- Who has not seen the end has waited for all of the time. -/
theorem le_of_waitSince (h : p.waitSince limit start d = (none, d')) (hstart : start ≤ Bench.now d) :
    start + limit.nanos ≤ Bench.now d' := by
  fun_induction waitSince p limit start d with
  | case1 d status e hlook => cases h
  | case2 d e hlook hover =>
    cases h
    have hnow : Bench.now d ≤ Bench.now d' := by
      have := p.now_look d
      rwa [hlook] at this
    omega
  | case3 d e hlook hover ih =>
    have hnow : Bench.now d ≤ Bench.now e := by
      have := p.now_look d
      rwa [hlook] at this
    refine ih h ?_
    rw [Bench.now_sleep]
    omega

/-- Of a process that `P` stands for, the end is not undone by looking for it or by time. -/
structure Steady (p : ExitProbe δ) (P : δ → Prop) : Prop where
  look : ∀ d, P d → p.Follows P d (p.look d).2
  sleep : ∀ t d, P d → p.Follows P d (Bench.sleep t d)

namespace Steady

variable (hp : p.Steady P)

include hp

/-- How the process was seen to end is how it is seen to have ended from then on. -/
theorem look_of_waitSince (hd : P d) (h : p.waitSince limit start d = (some status, d')) :
    (p.look d').1 = some status := by
  fun_induction waitSince p limit start d with
  | case1 d status e hlook =>
    cases h
    have hafter := (hp.look d hd).ended status (congrArg Prod.fst hlook)
    rwa [hlook] at hafter
  | case2 => cases h
  | case3 d e hlook hover ih =>
    have hnext := hp.look d hd
    rw [hlook] at hnext
    exact ih (hp.sleep _ e hnext.holds).holds h

theorem waitSince (limit : Span) (start : Nat) (d : δ) (hd : P d) :
    p.Follows P d (p.waitSince limit start d).2 := by
  fun_induction ExitProbe.waitSince p limit start d with
  | case1 d status e hlook =>
    have hnext := hp.look d hd
    rwa [hlook] at hnext
  | case2 d e hlook hover =>
    have hnext := hp.look d hd
    rwa [hlook] at hnext
  | case3 d e hlook hover ih =>
    have hnext := hp.look d hd
    rw [hlook] at hnext
    have hslept := hp.sleep exitStep e hnext.holds
    exact (hnext.trans hslept).trans (ih hslept.holds)

end Steady
end ExitProbe

/-- A process that is waited for with looks, on machines that `P` holds of: what is done does not undo
its end, and once it was killed it is seen to end. -/
structure Processes.Mortal [Processes δ] (pid : Nat) (p : ExitProbe δ) (P : δ → Prop) : Prop
    extends p.Steady P where
  awaitExit : ∀ wait d, P d →
    Processes.awaitExit pid wait d = (.ok (p.waitFor wait d).1, (p.waitFor wait d).2)
  signal : ∀ signal d, P d → p.Follows P d (Processes.signal pid signal d)
  awaitOutput : ∀ wait d, P d → p.Follows P d (Processes.awaitOutput pid wait d).2
  note : ∀ level text d, P d → p.Follows P d (Bench.note level text d)
  now_note : ∀ level text (d : δ), Bench.now d ≤ Bench.now (Bench.note level text d)
  killed : ∀ d, P d → ∃ status d', p.waitFor .max (Processes.signal pid .kill d) = (some status, d')

/-! ## A machine with one process -/

/-- A machine whose process prints nothing, and closes its output when it ends. -/
structure Ward where
  clock : Nat
  /-- When the process ends, and how, if nothing is done to it. -/
  fate : Option (Nat × ExitStatus)
  /-- How long the process takes to end when it is asked to, and how it does, if it heeds that. -/
  heeds : Option (Nat × ExitStatus)

namespace Ward

def status (w : Ward) : Option ExitStatus :=
  match w.fate with
  | some (time, status) => if time ≤ w.clock then some status else none
  | none => none

/-- Has the process end at a time, unless it does so before. -/
def hasten (time : Nat) (status : ExitStatus) (w : Ward) : Ward :=
  match w.fate with
  | some (t, _) => if t ≤ time then w else { w with fate := some (time, status) }
  | none => { w with fate := some (time, status) }

def signal (signal : StopSignal) (w : Ward) : Ward :=
  match signal, w.heeds with
  | .kill, _ => w.hasten w.clock (.signal 9)
  | .term, some (delay, status) => w.hasten (w.clock + delay) status
  | .term, none => w

def awaitOutput (wait : Span) (w : Ward) : Output × Ward :=
  match w.fate with
  | some (time, _) =>
    if time ≤ w.clock + wait.nanos then (.ended, { w with clock := max w.clock time })
    else (.nothing, { w with clock := w.clock + wait.nanos })
  | none => (.nothing, { w with clock := w.clock + wait.nanos })

instance : Bench Ward where
  now w := w.clock
  sleep t w := { w with clock := w.clock + t.nanos }
  note _ _ w := w
  libraries := Sim.libraries
  now_sleep _ _ := rfl

def probe : ExitProbe Ward where
  look w := (w.status, w)
  now_look _ := Nat.le_refl _

instance : Processes Ward where
  spawn _ w := (.ok 0, w)
  awaitExit _ wait w := (.ok (probe.waitFor wait w).1, (probe.waitFor wait w).2)
  signal _ := signal
  awaitOutput _ := awaitOutput
  takeOutput _ w := (none, w)
  sendInput _ _ w := (.error .brokenPipe, w)
  closeInput _ w := w
  outputBacklog _ _ := 0
  awaitOutput_chunk p wait w w' bytes h := by
    change awaitOutput wait w = _ at h
    unfold awaitOutput at h
    split at h
    · split at h <;> cases h
    · cases h
  takeOutput_some _ _ _ _ h := nomatch h

theorem status_eq_some_iff {w : Ward} {status : ExitStatus} :
    w.status = some status ↔ ∃ time, w.fate = some (time, status) ∧ time ≤ w.clock := by
  unfold Ward.status
  constructor
  · intro h
    split at h
    · rename_i time status' hfate
      split at h <;> cases h
      exact ⟨time, hfate, by assumption⟩
    · cases h
  · rintro ⟨time, hfate, htime⟩
    rw [hfate]
    exact if_pos htime

/-- Time does not undo an end. -/
theorem follows_later {w w' : Ward} (hfate : w'.fate = w.fate) (hclock : w.clock ≤ w'.clock) :
    probe.Follows (fun _ => True) w w' := by
  refine ⟨trivial, fun status h => ?_⟩
  obtain ⟨time, hended, htime⟩ := status_eq_some_iff.1 h
  exact status_eq_some_iff.2 ⟨time, hfate.trans hended, Nat.le_trans htime hclock⟩

theorem follows_hasten {w : Ward} {time : Nat} (status : ExitStatus) (htime : w.clock ≤ time) :
    probe.Follows (fun _ => True) w (w.hasten time status) := by
  refine ⟨trivial, fun ended h => ?_⟩
  obtain ⟨t, hfate, ht⟩ := status_eq_some_iff.1 h
  have hsame : w.hasten time status = w := by
    unfold hasten
    rw [hfate]
    exact if_pos (Nat.le_trans ht htime)
  rw [hsame]
  exact h

theorem status_hasten (w : Ward) (status : ExitStatus) :
    ∃ ended, (w.hasten w.clock status).status = some ended := by
  unfold hasten
  split
  · rename_i t ended hfate
    split
    · rename_i ht
      exact ⟨ended, status_eq_some_iff.2 ⟨t, hfate, ht⟩⟩
    · exact ⟨status, status_eq_some_iff.2 ⟨w.clock, rfl, Nat.le_refl _⟩⟩
  · exact ⟨status, status_eq_some_iff.2 ⟨w.clock, rfl, Nat.le_refl _⟩⟩

theorem mortal (pid : Nat) : Processes.Mortal pid probe fun _ => True where
  look w _ := .refl trivial
  sleep t w _ := follows_later rfl (Nat.le_add_right _ _)
  awaitExit wait w _ := rfl
  signal signal w _ := by
    show probe.Follows _ w (w.signal signal)
    unfold Ward.signal
    split
    · exact follows_hasten _ (Nat.le_refl _)
    · exact follows_hasten _ (Nat.le_add_right _ _)
    · exact .refl trivial
  awaitOutput wait w _ := by
    show probe.Follows _ w (w.awaitOutput wait).2
    unfold Ward.awaitOutput
    split
    · split
      · exact follows_later rfl (Nat.le_max_left _ _)
      · exact follows_later rfl (Nat.le_add_right _ _)
    · exact follows_later rfl (Nat.le_add_right _ _)
  note _ _ w _ := .refl trivial
  now_note _ _ w := Nat.le_refl _
  killed w _ := by
    obtain ⟨status, hstatus⟩ := status_hasten w (.signal 9)
    have hlook : probe.look (w.signal .kill) = (some status, w.signal .kill) :=
      Prod.ext hstatus rfl
    exact ⟨status, _, ExitProbe.waitSince_of_look hlook⟩

end Ward

end BoardBench
