import BoardBench.Proofs.Bootloader.InStep
import BoardBench.Proofs.Session.Recording

/-!
# Recorded dialogues

What a client does on a recorded session it does on the session without its journal.
-/

namespace BoardBench.Bootloader.Client

variable {δ : Type}

/-- The client on the session without its journal. -/
def plain (c : Client (Recorded δ)) : Client δ := ⟨c.session.plain, c.state⟩

/-- The client on the session recorded from here on. -/
def recorded (c : Client δ) : Client (Recorded δ) := ⟨c.session.recorded, c.state⟩

theorem both_plain_iff (c : Client (Recorded δ)) (c' : Client δ) :
    Both (fun s t => t = s.plain) c c' ↔ c' = c.plain := by
  constructor
  · rintro ⟨hstate, hsession⟩
    cases c'
    cases hstate
    cases hsession
    rfl
  · rintro rfl
    exact ⟨rfl, rfl⟩

/-- Telling of progress does to the device what the telling without a journal does. -/
theorem tell_relates {progress : Nat → Nat → δ → δ} (done total : Nat) :
    Act.Relates (fun (s : Session (Recorded δ)) t => t = s.plain)
      (Session.touch (Recorded.tell progress done total)) (Session.touch (progress done total)) :=
  .change fun _ _ h => h ▸ rfl

variable [Bench δ] [Transport δ]

theorem erase_mirrors (device : String) (offset size : Nat) (timeout : Span) :
    Act.Mirrors (plain (δ := δ)) (erase device offset size timeout)
      (erase device offset size timeout) :=
  (erase_relates Session.recorded_inStep device offset size trivial).mirrors both_plain_iff

/-- The journal of a format says what the caller is told of. -/
theorem formatFilesystem_mirrors (spec : JffsImage) (progress : Nat → Nat → δ → δ) :
    Act.Mirrors plain (formatFilesystem spec (Recorded.tell progress))
      (formatFilesystem spec progress) :=
  (formatFilesystem_relates Session.recorded_inStep trivial tell_relates).mirrors both_plain_iff

end BoardBench.Bootloader.Client
