import BoardBench.Machine.Files
import BoardBench.Machine.Processes
import BoardBench.Proofs.Bootloader.Recording

/-!
# Chronicles

`Chronicled δ` is a machine `δ` with one record of all that is done to it: the calls on its transport,
the progress that callers were told of, and what was done with processes. Its order says what came
before what. It answers as `δ` does (`Chronicled.inStep`), and what a journal of calls says of an action
its chronicle says too (`Chronicled.takes_inStep`).
-/

namespace BoardBench

/-- One thing that was done to a machine, with the answer. -/
inductive Entry where
  | call (call : Call)
  | told (step : String) (done total : Nat)
  | spawned (launch : Launch) (answer : Except Fault Nat)
  | heard (pid : Nat) (answer : Output)
  | awaited (pid : Nat) (wait : Span) (answer : Except Fault (Option ExitStatus))
  | signalled (pid : Nat) (signal : StopSignal)
  | fed (pid : Nat) (bytes : Bytes) (answer : Except Fault Nat)
  /-- The input of the process was closed. -/
  | starved (pid : Nat)

namespace Entry

/-- A call of a journal in a chronicle, where progress is told of a step. -/
def ofCall (step : String) : Call → Entry
  | .progress done total => told step done total
  | c => call c

/-- Whether something was done with a process. -/
def isDeed : Entry → Bool
  | call _ | told .. => false
  | _ => true

end Entry

/-- Entries in the order in which things were done. -/
abbrev Chronicle := List Entry

namespace Chronicle

def writtenBy : Entry → Bytes
  | .call c => Journal.writtenBy c
  | _ => []

def toldBy : Entry → Option (String × Nat × Nat)
  | .told step done total => some (step, done, total)
  | _ => none

/-- What the process was heard to print. -/
def heardBy (pid : Nat) : Entry → Bytes
  | .heard p (.chunk bytes) => if p = pid then bytes else []
  | _ => []

/-- The bytes that were sent out. -/
def written (k : Chronicle) : Bytes := k.flatMap writtenBy

/-- The progress that was told of. -/
def told (k : Chronicle) : List (String × Nat × Nat) := k.filterMap toldBy

/-- What the process printed. -/
def heard (pid : Nat) (k : Chronicle) : Bytes := k.flatMap (heardBy pid)

/-- The piece of output that was heard. -/
def pieceOf (pid : Nat) : Entry → Option Bytes
  | .heard p (.chunk bytes) => if p = pid then some bytes else none
  | _ => none

/-- The pieces in which the process was heard to print. -/
def pieces (pid : Nat) (k : Chronicle) : List Bytes := k.filterMap (pieceOf pid)

/-- Nothing was done but with processes. -/
def Deeds (k : Chronicle) : Prop := ∀ e ∈ k, e.isDeed = true

/-- Nothing was done with processes. -/
def Idle (k : Chronicle) : Prop := ∀ e ∈ k, e.isDeed = false

@[simp] theorem written_nil : written [] = [] := rfl
@[simp] theorem told_nil : told [] = [] := rfl

@[simp] theorem written_append (k l : Chronicle) : written (k ++ l) = written k ++ written l := by
  simp [written]

@[simp] theorem told_append (k l : Chronicle) : told (k ++ l) = told k ++ told l := by
  simp [told]

@[simp] theorem heard_append (pid : Nat) (k l : Chronicle) :
    heard pid (k ++ l) = heard pid k ++ heard pid l := by
  simp [heard]

theorem flatten_pieces (pid : Nat) (k : Chronicle) : (pieces pid k).flatten = heard pid k := by
  induction k with
  | nil => rfl
  | cons e k ih =>
    have hcons : heard pid (e :: k) = heardBy pid e ++ heard pid k := rfl
    rw [hcons, ← ih, pieces, List.filterMap_cons]
    cases e with
    | heard p answer =>
      cases answer with
      | chunk bytes =>
        by_cases hp : p = pid
        · simp [pieceOf, heardBy, hp, pieces]
        · simp [pieceOf, heardBy, hp, pieces]
      | _ => rfl
    | _ => rfl

theorem Deeds.nil : Deeds [] := fun _ he => absurd he List.not_mem_nil

theorem Deeds.singleton {e : Entry} (h : e.isDeed = true) : Deeds [e] := by
  intro e' he
  obtain rfl := List.mem_singleton.1 he
  exact h

theorem Deeds.append {k l : Chronicle} (hk : Deeds k) (hl : Deeds l) : Deeds (k ++ l) := by
  intro e he
  rcases List.mem_append.1 he with he | he
  · exact hk e he
  · exact hl e he

theorem Deeds.written_eq {k : Chronicle} (h : Deeds k) : written k = [] := by
  refine List.flatMap_eq_nil_iff.2 fun e he => ?_
  have hdeed := h e he
  cases e <;> first | rfl | cases hdeed

theorem Deeds.told_eq {k : Chronicle} (h : Deeds k) : told k = [] := by
  refine List.filterMap_eq_nil_iff.2 fun e he => ?_
  have hdeed := h e he
  cases e <;> first | rfl | cases hdeed

/-- What is written between deeds is all that is written. -/
theorem written_between {k l m : Chronicle} (hk : Deeds k) (hm : Deeds m) :
    written (k ++ (l ++ m)) = written l := by
  rw [written_append, written_append, hk.written_eq, hm.written_eq, List.append_nil, List.nil_append]

theorem told_between {k l m : Chronicle} (hk : Deeds k) (hm : Deeds m) :
    told (k ++ (l ++ m)) = told l := by
  rw [told_append, told_append, hk.told_eq, hm.told_eq, List.append_nil, List.nil_append]

theorem Idle.nil : Idle [] := fun _ he => absurd he List.not_mem_nil

theorem Idle.append {k l : Chronicle} (hk : Idle k) (hl : Idle l) : Idle (k ++ l) := by
  intro e he
  rcases List.mem_append.1 he with he | he
  · exact hk e he
  · exact hl e he

/-! ## Journals in chronicles -/

theorem written_ofJournal (step : String) (j : Journal) :
    written (j.map (Entry.ofCall step)) = j.written := by
  unfold written Journal.written
  rw [List.flatMap_map]
  exact congrArg (List.flatMap · j) (funext fun c => by cases c <;> rfl)

theorem told_ofJournal (step : String) (j : Journal) :
    told (j.map (Entry.ofCall step)) = j.told.map fun (done, total) => (step, done, total) := by
  unfold told Journal.told
  rw [List.filterMap_map, List.map_filterMap]
  exact congrArg (List.filterMap · j) (funext fun c => by cases c <;> rfl)

theorem idle_ofJournal (step : String) (j : Journal) : Idle (j.map (Entry.ofCall step)) := by
  intro e he
  obtain ⟨c, -, rfl⟩ := List.mem_map.1 he
  cases c <;> rfl

end Chronicle

/-- A machine with what was done to it. -/
structure Chronicled (δ : Type) where
  device : δ
  entries : Chronicle

namespace Chronicled

variable {δ α : Type}

/-- Does something and takes it down. -/
def record (entry : α → Entry) (x : δ → α × δ) (c : Chronicled δ) : α × Chronicled δ :=
  ((x c.device).1, ⟨(x c.device).2, c.entries ++ [entry (x c.device).1]⟩)

/-- Tells of progress and takes that down. -/
def tell (progress : String → Nat → Nat → δ → δ) (step : String) (done total : Nat)
    (c : Chronicled δ) : Chronicled δ :=
  ⟨progress step done total c.device, c.entries ++ [.told step done total]⟩

variable [Bench δ]

instance : Bench (Chronicled δ) where
  now c := Bench.now c.device
  sleep t c := { c with device := Bench.sleep t c.device }
  note level text c := { c with device := Bench.note level text c.device }
  libraries := Bench.libraries δ
  now_sleep t c := Bench.now_sleep t c.device

instance [Transport δ] : Transport (Chronicled δ) where
  name c := Transport.name c.device
  timeout c := Transport.timeout c.device
  setTimeout t := record (fun a => .call (.setTimeout t a)) (Transport.setTimeout t)
  read n := record (fun a => .call (.read a)) (Transport.read n)
  write bytes := record (fun a => .call (.write bytes a)) (Transport.write bytes)
  flush := record (fun a => .call (.flush a)) Transport.flush
  clear := record (fun a => .call (.clear a)) Transport.clear
  reopen := record (fun a => .call (.reopen a)) Transport.reopen
  close := record (fun a => .call (.close a)) Transport.close
  backlog c := Transport.backlog c.device
  interruptions c := Transport.interruptions c.device
  setTimeout_ok t c c' h := by
    obtain ⟨h1, rfl⟩ := Prod.mk.inj h
    exact Transport.setTimeout_ok t c.device _ (Prod.ext h1 rfl)
  read_data n c c' b bs h := by
    obtain ⟨h1, rfl⟩ := Prod.mk.inj h
    exact Transport.read_data n c.device _ b bs (Prod.ext h1 rfl)
  read_idle n c c' f h := by
    obtain ⟨h1, rfl⟩ := Prod.mk.inj h
    exact Transport.read_idle n c.device _ f (Prod.ext h1 rfl)
  write_interrupted bytes c c' f h := by
    obtain ⟨h1, rfl⟩ := Prod.mk.inj h
    exact Transport.write_interrupted bytes c.device _ f (Prod.ext h1 rfl)

instance [Processes δ] : Processes (Chronicled δ) where
  spawn launch := record (.spawned launch) (Processes.spawn launch)
  awaitExit pid wait := record (.awaited pid wait) (Processes.awaitExit pid wait)
  signal pid signal c := ⟨Processes.signal pid signal c.device, c.entries ++ [.signalled pid signal]⟩
  awaitOutput pid wait := record (.heard pid) (Processes.awaitOutput pid wait)
  takeOutput pid := record (fun piece => .heard pid (piece.elim .nothing .chunk)) (Processes.takeOutput pid)
  sendInput pid bytes := record (.fed pid bytes) (Processes.sendInput pid bytes)
  closeInput pid c := ⟨Processes.closeInput pid c.device, c.entries ++ [.starved pid]⟩
  outputBacklog pid c := Processes.outputBacklog pid c.device
  awaitOutput_chunk pid wait c c' bytes h := by
    obtain ⟨h1, rfl⟩ := Prod.mk.inj h
    exact Processes.awaitOutput_chunk pid wait c.device _ bytes (Prod.ext h1 rfl)
  takeOutput_some pid c c' bytes h := by
    obtain ⟨h1, rfl⟩ := Prod.mk.inj h
    exact Processes.takeOutput_some pid c.device _ bytes (Prod.ext h1 rfl)

instance [Files δ] : Files (Chronicled δ) where
  fileSize path c := Files.fileSize path c.device
  isThere path c := Files.isThere path c.device
  readFile path c := Files.readFile path c.device
  list path c := Files.list path c.device
  realPath path c := Files.realPath path c.device
  writeFile path bytes c :=
    ((Files.writeFile path bytes c.device).1, { c with device := (Files.writeFile path bytes c.device).2 })

omit [Bench δ] in
theorem record_eq_iff {entry : α → Entry} {x : δ → α × δ} {c c' : Chronicled δ} {a : α} :
    record entry x c = (a, c') ↔
      x c.device = (a, c'.device) ∧ c'.entries = c.entries ++ [entry a] := by
  unfold record
  rcases x c.device with ⟨b, d⟩
  rcases c' with ⟨d', k⟩
  constructor
  · intro h
    cases h
    exact ⟨rfl, rfl⟩
  · rintro ⟨h, rfl⟩
    cases h
    rfl

variable [Transport δ]

/-- A chronicle changes nothing on the transport. -/
theorem transport_inStep : Transport.InStep fun (c : Chronicled δ) (d : δ) => d = c.device where
  name c d h := by rw [h]; rfl
  now c d h := by rw [h]; rfl
  note level text c d h := by rw [h]; rfl
  setTimeout t c d h := by subst h; exact ⟨rfl, rfl⟩
  read n c d h := by subst h; exact ⟨rfl, rfl⟩
  write bytes c d h := by subst h; exact ⟨rfl, rfl⟩
  flush c d h := by subst h; exact ⟨rfl, rfl⟩

/-- The chronicle holds what came before, and the journal of a step after that. -/
structure Takes (before : Chronicle) (step : String) (r : Recorded δ) (c : Chronicled δ) : Prop where
  device : c.device = r.device
  entries : c.entries = before ++ r.journal.map (Entry.ofCall step)

/-- What is taken down in a journal is taken down in a chronicle. -/
theorem takes_inStep (before : Chronicle) (step : String) :
    Transport.InStep (Takes (δ := δ) before step) := by
  -- a call that is taken down on both sides
  have both {α : Type} (entry : α → Call) {x : δ → α × δ} {r : Recorded δ} {c : Chronicled δ}
      (hcall : ∀ a, Entry.ofCall step (entry a) = .call (entry a)) (h : Takes before step r c) :
      (record (fun a => .call (entry a)) x c).1 = (Recorded.call entry x r).1 ∧
        Takes before step (Recorded.call entry x r).2 (record (fun a => .call (entry a)) x c).2 := by
    obtain ⟨hdevice, hentries⟩ := h
    unfold record Recorded.call
    rw [hdevice]
    refine ⟨rfl, rfl, ?_⟩
    show c.entries ++ _ = _
    rw [hentries, List.map_append, List.append_assoc, List.map_singleton, hcall]
  exact {
    name := fun r c h => congrArg Transport.name h.device
    now := fun r c h => congrArg Bench.now h.device
    note := fun level text r c h => ⟨congrArg (Bench.note level text) h.device, h.entries⟩
    setTimeout := fun t r c h => both (.setTimeout t) (fun _ => rfl) h
    read := fun n r c h => both .read (fun _ => rfl) h
    write := fun bytes r c h => both (.write bytes) (fun _ => rfl) h
    flush := fun r c h => both .flush (fun _ => rfl) h }

end Chronicled

/-- A session over the same machine, with a chronicle from here on. -/
def Session.chronicled {δ : Type} (s : Session δ) : Session (Chronicled δ) :=
  ⟨⟨s.device, []⟩, s.buffer, s.log, s.closed⟩

/-- The session without its chronicle. -/
def Session.bare {δ : Type} (s : Session (Chronicled δ)) : Session δ :=
  ⟨s.device.device, s.buffer, s.log, s.closed⟩

theorem Session.alike_bare_iff {δ : Type} {s : Session (Chronicled δ)} {t : Session δ} :
    Session.Alike (fun c d => d = c.device) s t ↔ t = s.bare := by
  constructor
  · rintro ⟨hdevice, hbuffer, hlog, hclosed⟩
    cases t
    cases hdevice
    cases hbuffer
    cases hlog
    cases hclosed
    rfl
  · rintro rfl
    exact ⟨rfl, rfl, rfl, rfl⟩

namespace Bootloader.Client

variable {δ : Type}

/-- A client over the same machine, with a chronicle from here on. -/
def chronicled (c : Client δ) : Client (Chronicled δ) := ⟨c.session.chronicled, c.state⟩

/-- The client without its chronicle. -/
def bare (c : Client (Chronicled δ)) : Client δ := ⟨c.session.bare, c.state⟩

theorem both_bare_iff {c : Client (Chronicled δ)} {c' : Client δ} :
    Both (Session.Alike fun (c : Chronicled δ) (d : δ) => d = c.device) c c' ↔ c' = c.bare := by
  constructor
  · rintro ⟨hstate, hsession⟩
    cases c'
    cases hstate
    cases Session.alike_bare_iff.1 hsession
    rfl
  · rintro rfl
    exact ⟨rfl, Session.alike_bare_iff.2 rfl⟩

end Bootloader.Client

end BoardBench
