import BoardBench.Proofs.Bootloader.Operation
import BoardBench.Proofs.Helper.InStep
import BoardBench.Target.Programming

/-!
# Programming in step

On machines that are in step images are programmed and applications are loaded alike, file server and
all. A machine with a chronicle is in step with the one without (`Chronicled.inStep`).
-/

namespace BoardBench

open Bootloader Client Session

variable {δ ε : Type} [Bench δ] [Bench ε] [Transport δ] [Transport ε] [Processes δ] [Processes ε]
  [Files δ] [Files ε]

/-- On related machines all that is asked of them gives the same answer and leaves them related. -/
structure Machine.InStep (D : δ → ε → Prop) : Prop
  extends transport : Transport.InStep D, processes : Processes.InStep D, files : Files.InStep D where
  regexes : (Bench.libraries ε).regexes = (Bench.libraries δ).regexes

omit [Bench ε] [Transport ε] [Processes ε] [Files ε] in
/-- A chronicle changes nothing. -/
theorem Chronicled.inStep : Machine.InStep fun (c : Chronicled δ) (d : δ) => d = c.device :=
  { Chronicled.transport_inStep, Chronicled.processes_inStep, Chronicled.files_inStep with
    regexes := rfl }

variable {D : δ → ε → Prop} {α : Type}

omit [Bench δ] [Bench ε] [Transport δ] [Transport ε] [Processes δ] [Processes ε] [Files δ] [Files ε] in
theorem onDevice_both {x : Act δ α} {y : Act ε α} (h : Act.Relates D x y) :
    Act.Relates (Both (Alike D)) (Client.onDevice x) (Client.onDevice y) :=
  onSession_relates (Session.onDevice_relates h)

theorem withFileServer_relates (hD : Machine.InStep D) (spec : HelperSpec) {x : Act (Client δ) α}
    {y : Act (Client ε) α} (h : Act.Relates (Both (Alike D)) x y) :
    Act.Relates (Both (Alike D)) (withFileServer spec x) (withFileServer spec y) := by
  have hP := hD.processes
  refine ((onDevice_both (Helper.start_relates hP hD.files spec)).mapError _).bind fun helper =>
    h.attempt.bind fun r => ?_
  refine (onDevice_both (Helper.tending_relates (Helper.output_relates hP) helper)).bind
    fun (output, helper) => ?_
  refine (Act.Relates.ofExcept output).bind fun output => ?_
  refine (onDevice_both (Helper.tending_relates (Helper.kill_relates hP) helper)).bind
    fun (stopped, _) => ?_
  exact (Act.Relates.ofExcept _).bind fun value => (Act.Relates.ofExcept _).bind fun _ => .pure value

omit [Transport δ] [Transport ε] [Processes δ] [Processes ε] in
theorem sizeOfFile_relates (hF : Files.InStep D) (file : String) :
    Act.Relates (Both (Alike D)) (sizeOfFile file) (sizeOfFile file) := by
  refine .state_bind fun c c' hc => ?_
  rw [hF.fileSize _ _ _ hc.session.device]
  cases Files.fileSize file c.session.device with
  | ok n => exact ⟨rfl, hc⟩
  | error f => exact ⟨rfl, hc⟩

section images

variable {progress : Progress δ} {progress' : Progress ε}

theorem prepareFlash_relates (hD : Machine.InStep D)
    (hp : ∀ step done total, Act.Relates (Alike D) (touch (progress step done total))
      (touch (progress' step done total))) (j : JffsImage) :
    Act.Relates (Both (Alike D)) (prepareFlash j progress) (prepareFlash j progress') := by
  have hS := session_inStep hD.transport hD.regexes
  have told (step : String) (done total : Nat) : Act.Relates (Both (Alike D))
      (report progress step done total) (report progress' step done total) :=
    onSession_relates (hp step done total)
  refine (told _ _ _).bind fun _ => ?_
  split
  · exact .fail_bind _ _ _
  · exact (erase_relates hS _ _ _ trivial).bind fun _ => (told _ _ _).bind fun _ =>
      formatFilesystem_relates hS trivial (hp "format")

theorem programImage_relates (hD : Machine.InStep D)
    (hp : ∀ step done total, Act.Relates (Alike D) (touch (progress step done total))
      (touch (progress' step done total))) (image : FlashImage) (copyTimeout : Span) :
    Act.Relates (Both (Alike D)) (programImage image copyTimeout progress)
      (programImage image copyTimeout progress') := by
  have hS := session_inStep hD.transport hD.regexes
  have told (step : String) (done total : Nat) : Act.Relates (Both (Alike D))
      (report progress step done total) (report progress' step done total) :=
    onSession_relates (hp step done total)
  have copied (size : Nat) := Operation.perform_relates hS (hp "copy") (.copyFileToMemory image.spec.sourceId
    (servedName image.spec.file) image.spec.memoryBank 0 size copyTimeout) fun _ _ => trivial
  refine (sizeOfFile_relates hD.files _).bind fun size => ?_
  cases image with
  | plain _ => exact (told _ _ _).bind fun _ => (copied size).bind fun _ => told _ _ _
  | jffs j =>
    exact (prepareFlash_relates hD hp j).bind fun _ => (told _ _ _).bind fun _ =>
      (copied size).bind fun _ => told _ _ _

end images

theorem stageApps_relates (hD : Machine.InStep D) (w : RamWindow) (finish : Nat) (copyTimeout : Span)
    (offset : Nat) (apps : List AppSpec) :
    Act.Relates (Both (Alike D)) (stageApps w finish copyTimeout offset apps)
      (stageApps w finish copyTimeout offset apps) := by
  have hS := session_inStep hD.transport hD.regexes
  -- commands that tell nobody of progress
  have done (op : Operation) : Act.Relates (Both (Alike D)) (op.perform fun _ _ d => d)
      (op.perform fun _ _ e => e) :=
    Operation.perform_relates hS (fun _ _ => .change fun _ _ h => h) op fun _ _ => trivial
  induction apps generalizing offset with
  | nil => exact .pure ()
  | cons app rest ih =>
    refine (sizeOfFile_relates hD.files _).bind fun size => .ite Iff.rfl (.fail_bind _ _ _) ?_
    exact (done (.copyFileToMemory app.sourceId (servedName app.file) w.device offset size
      copyTimeout)).bind fun _ => (done (.nameRange (servedName app.file) offset size)).bind fun _ =>
        (done (.loadApp w.device (servedName app.file) app.imap app.dmap app.executable)).bind fun _ =>
          ih _

end BoardBench
