import BoardBench.Proofs.Bootloader.Operation
import BoardBench.Proofs.Bootloader.Report
import BoardBench.Proofs.Regex.BlockReport
import BoardBench.Proofs.Session.Chunking
import BoardBench.Proofs.Sim.Script
import Mathlib

/-!
# Reads do not matter

Requests to a client in any order, each made whatever came of the one before (`trace`). Two clients
whose devices play the same script, and who have the same stream to begin with, come to the same in
every request, however the output of each device is cut into reads (`trace_same`).
-/

namespace BoardBench.Bootloader

open Client

/-- A request to a client. -/
inductive Request where
  | enterBootloader
  | waitPrompt (timeout : Span)
  | assertPrompt (timeout : Span) (check : Bool)
  | sendCommand (cmd : String)
  | runCommand (cmd : String) (timeout : Span)
  | operate (op : Operation)
  | exitToOs

namespace Request

/-- The times that the caller allows. -/
def allowed : Request → List Span
  | waitPrompt timeout | assertPrompt timeout _ | runCommand _ timeout => [timeout]
  | operate op => op.allowed
  | enterBootloader | sendCommand _ | exitToOs => []

variable {δ ε : Type} [Bench δ] [Transport δ] [Bench ε] [Transport ε]

/-- Carries out the request, with the match that it gives back, if it gives one. -/
def perform (progress : Nat → Nat → δ → δ) : Request → Act (Client δ) (Option Match)
  | enterBootloader => (fun _ => none) <$> Client.enterBootloader
  | waitPrompt timeout => some <$> Client.waitPrompt timeout
  | assertPrompt timeout check => some <$> Client.assertPrompt timeout check
  | sendCommand cmd => (fun _ => none) <$> Client.sendCommand cmd
  | runCommand cmd timeout => some <$> Client.runCommand cmd timeout
  | operate op => (fun _ => none) <$> op.perform progress
  | exitToOs => (fun _ => none) <$> Client.exitToOs

/-- What each request comes to, with the client as it is then. -/
def trace (progress : Nat → Nat → δ → δ) :
    List Request → Client δ → List (Except Error (Option Match) × Client δ)
  | [], _ => []
  | req :: reqs, c => req.perform progress c :: trace progress reqs (req.perform progress c).2

section relations

variable {ok : Span → Prop} {S : Session δ → Session ε → Prop} {progress : Nat → Nat → δ → δ}
  {progress' : Nat → Nat → ε → ε}

theorem perform_relates (hS : Session.InStep ok S)
    (hp : ∀ done total, Act.Relates S (Session.touch (progress done total))
      (Session.touch (progress' done total)))
    (req : Request) (ht : ∀ t ∈ req.allowed, ok t) :
    Act.Relates (Both S) (req.perform progress) (req.perform progress') := by
  cases req with
  | enterBootloader => exact (enterBootloader_relates hS).map _
  | waitPrompt timeout => exact (waitPrompt_relates hS (ht _ List.mem_cons_self)).map _
  | assertPrompt timeout check => exact (assertPrompt_relates hS (ht _ List.mem_cons_self) check).map _
  | sendCommand cmd => exact (sendCommand_relates hS cmd).map _
  | runCommand cmd timeout => exact (runCommand_relates hS cmd (ht _ List.mem_cons_self)).map _
  | operate op => exact (op.perform_relates hS hp ht).map _
  | exitToOs => exact (exitToOs_relates hS).map _

theorem trace_relates (hS : Session.InStep ok S)
    (hp : ∀ done total, Act.Relates S (Session.touch (progress done total))
      (Session.touch (progress' done total)))
    (reqs : List Request) (ht : ∀ req ∈ reqs, ∀ t ∈ req.allowed, ok t) {c : Client δ} {c' : Client ε}
    (hc : Both S c c') :
    List.Forall₂ (fun a b => b.1 = a.1 ∧ Both S a.2 b.2) (trace progress reqs c)
      (trace progress' reqs c') := by
  induction reqs generalizing c c' with
  | nil => exact .nil
  | cons req reqs ih =>
    have hstep := perform_relates hS hp req (ht req List.mem_cons_self) c c' hc
    exact .cons hstep (ih (fun r hr => ht r (List.mem_cons_of_mem req hr)) hstep.2)

end relations

theorem perform_mirrors (progress : Nat → Nat → δ → δ) (req : Request) :
    Act.Mirrors Client.plain (req.perform (Recorded.tell progress)) (req.perform progress) :=
  (perform_relates Session.recorded_inStep tell_relates req fun _ _ => trivial).mirrors both_plain_iff

theorem trace_plain (progress : Nat → Nat → δ → δ) (reqs : List Request) (c : Client (Recorded δ)) :
    trace progress reqs c.plain =
      (trace (Recorded.tell progress) reqs c).map fun (x, c) => (x, c.plain) := by
  induction reqs generalizing c with
  | nil => rfl
  | cons req reqs ih =>
    have hstep : req.perform progress c.plain =
        ((req.perform (Recorded.tell progress) c).1, (req.perform (Recorded.tell progress) c).2.plain) :=
      perform_mirrors progress req c
    rw [trace, hstep, ih]
    rfl

variable {ω : Type} {script : Script ω}

/-- Of two devices that play the same script, however each cuts its output into reads, the clients come
to the same in every request, take the bootloader for being in the same state, have written the same
bytes and told of the same progress, and have the same stream to come. All that is assumed of the library,
which is the same for both, is that it finds reports on blocks. -/
theorem trace_same (hlib : (Bench.libraries ε).regexes = (Bench.libraries δ).regexes)
    (hfinds : FindsReports δ) {progress : Nat → Nat → δ → δ} {progress' : Nat → Nat → ε → ε}
    (hp : ∀ done total w out d, Transport.Plays script w out d →
      Transport.Plays script w out (progress done total d))
    (hp' : ∀ done total w out d, Transport.Plays script w out d →
      Transport.Plays script w out (progress' done total d))
    (reqs : List Request) (ht : ∀ req ∈ reqs, ∀ t ∈ req.allowed, 0 < t.nanos)
    {c : Client δ} {c' : Client ε} {w : ω} {out out' : Bytes}
    (hc : Transport.Plays script w out c.session.device)
    (hc' : Transport.Plays script w out' c'.session.device)
    (hstate : c'.state = c.state) (hstream : c.session.buffer ++ out = c'.session.buffer ++ out') :
    let run := trace (Recorded.tell progress) reqs c.recorded
    let run' := trace (Recorded.tell progress') reqs c'.recorded
    trace progress reqs c = run.map (fun (x, r) => (x, r.plain)) ∧
    trace progress' reqs c' = run'.map (fun (x, r) => (x, r.plain)) ∧
    List.Forall₂ (fun a b => b.1 = a.1 ∧ b.2.state = a.2.state ∧
      Journal.written b.2.session.device.journal = Journal.written a.2.session.device.journal ∧
      Journal.told b.2.session.device.journal = Journal.told a.2.session.device.journal ∧
      ∃ w out out', Transport.Plays script w out a.2.session.device.device ∧
        Transport.Plays script w out' b.2.session.device.device ∧
        a.2.session.buffer ++ out = b.2.session.buffer ++ out') run run' := by
  intro run run'
  refine ⟨trace_plain progress reqs c.recorded, trace_plain progress' reqs c'.recorded, ?_⟩
  have hboth : Both (Session.Abreast script) c.recorded c'.recorded :=
    ⟨hstate, rfl, rfl, w, out, out', hc, hc', hstream⟩
  have htell := Session.tell_abreast hp hp'
  refine (trace_relates (Session.abreast_inStep hlib (stable_report hfinds)) htell reqs ht hboth).imp ?_
  rintro a b ⟨hresult, hab⟩
  exact ⟨hresult, hab.state, hab.session.written, hab.session.told, hab.session.stream⟩

/-- A bench whose board shows a prompt and answers one command, with its prompts in these pieces. -/
def cutBench (pieces : List Bytes) : Sim.World :=
  { board := {
      incoming := pieces.map .data
      rules := [{
        trigger := Bytes.ofText "alias app 0x10 0x20\r"
        reply := (Bytes.ofText "alias app 0x10 0x20\r\n" :: pieces).map fun p => ⟨.data p, .zero⟩
        repeats := false }] } }

theorem cutBench_prompt (pieces : List Bytes) : (cutBench pieces).Prompt none pieces := by
  refine ⟨rfl, rfl, ⟨rfl, rfl, rfl⟩, fun r hr e he => ?_, rfl, rfl, rfl⟩
  obtain rfl := List.mem_singleton.1 hr
  obtain ⟨p, -, rfl⟩ := List.mem_map.1 he
  exact ⟨rfl, rfl⟩

def cutClient (pieces : List Bytes) : Client Sim.World :=
  ⟨⟨cutBench pieces, [], none, false⟩, .awaitingInterrupt⟩

/-- A wait for the prompt and a command come to the same whether prompts arrive in one piece or in two. -/
theorem trace_same_two_cuts :
    let cut := [Bytes.ofText "(plo)", Bytes.ofText "% "]
    let reqs := [waitPrompt (.ofSeconds 1), operate (.nameRange "app" 0x10 0x20)]
    (Transport.read 1024 (cutBench [prompt])).1 = .ok prompt ∧
      (Transport.read 1024 (cutBench cut)).1 = .ok (Bytes.ofText "(plo)") ∧
      (trace (fun _ _ w => w) reqs (cutClient cut)).map (·.1) =
        (trace (fun _ _ w => w) reqs (cutClient [prompt])).map (·.1) := by
  intro cut reqs
  refine ⟨by cbv, by cbv, ?_⟩
  have hallowed : ∀ req ∈ reqs, ∀ t ∈ req.allowed, 0 < t.nanos := by
    simp [reqs, allowed, Operation.allowed, Span.ofSeconds]
  have plays (pieces : List Bytes) : Transport.Plays (Sim.Part.script none) (cutBench pieces).board.part
      pieces.flatten (cutClient pieces).session.device :=
    Sim.World.plays (cutBench_prompt pieces)
  have hfinds : FindsReports Sim.World := Regex.findsReports
  obtain ⟨hwhole, hcut, hsame⟩ := trace_same rfl hfinds (fun _ _ _ _ _ h => h) (fun _ _ _ _ _ h => h)
    reqs hallowed (plays [prompt]) (plays cut) rfl rfl
  rw [hwhole, hcut, List.map_map, List.map_map, ← List.forall₂_eq_eq_eq,
    List.forall₂_map_left_iff, List.forall₂_map_right_iff]
  exact hsame.flip.imp fun _ _ h => h.1

end Request
end BoardBench.Bootloader
