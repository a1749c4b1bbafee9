import BoardBench.Proofs.Session.InStep
import BoardBench.Proofs.Session.Stream

/-!
# Recording changes nothing

A recorded transport is in step with the transport under its journal. So what is shown of a session
with a journal holds of what runs without one.
-/

namespace BoardBench

variable {δ : Type} [Bench δ] [Transport δ]

theorem Recorded.inStep : Transport.InStep fun (r : Recorded δ) (d : δ) => d = r.device where
  name r d h := by rw [h]; rfl
  now r d h := by rw [h]; rfl
  note level text r d h := by rw [h]; rfl
  setTimeout t r d h := by subst h; exact ⟨rfl, rfl⟩
  read n r d h := by subst h; exact ⟨rfl, rfl⟩
  write bytes r d h := by subst h; exact ⟨rfl, rfl⟩
  flush r d h := by subst h; exact ⟨rfl, rfl⟩

namespace Session

omit [Bench δ] [Transport δ] in
theorem alike_recorded_iff {s : Session (Recorded δ)} {t : Session δ} :
    Alike (fun r d => d = r.device) s t ↔ t = s.plain := by
  constructor
  · rintro ⟨hdevice, hbuffer, hlog, hclosed⟩
    cases t
    cases hdevice
    cases hbuffer
    cases hlog
    cases hclosed
    rfl
  · rintro rfl
    exact ⟨rfl, rfl, rfl, rfl⟩

theorem recorded_inStep :
    InStep (fun _ => True) fun (s : Session (Recorded δ)) (t : Session δ) => t = s.plain := by
  have h := session_inStep (Recorded.inStep (δ := δ)) rfl
  rwa [show Alike (fun (r : Recorded δ) (d : δ) => d = r.device) = fun s t => t = s.plain from
    funext fun _ => funext fun _ => propext alike_recorded_iff] at h

end Session
end BoardBench
