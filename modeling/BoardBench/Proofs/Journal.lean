import BoardBench.Session

/-!
# Journals

`Recorded δ` is a transport `δ` with a journal of the calls made on it, each with its answer. It
answers as `δ` does. `received` and `written` are the bytes that the calls of a journal moved;
`told` lists the progress that callers were told of.
-/

namespace BoardBench

/-- A call on a transport and its answer. -/
inductive Call where
  | setTimeout (t : Span) (answer : Except Error Unit)
  | read (answer : Except Fault Bytes)
  | write (bytes : Bytes) (answer : Except Fault Nat)
  | flush (answer : Except Fault Unit)
  | clear (answer : Except Error Unit)
  | reopen (answer : Except Error Unit)
  | close (answer : Except Error Unit)
  /-- Not a call on the transport: the caller was told how far the work has got. -/
  | progress (done total : Nat)

/-- Calls in the order in which they were made. -/
abbrev Journal := List Call

namespace Journal

/-- The bytes that a call brought in. -/
def receivedBy : Call → Bytes
  | .read (.ok bytes) => bytes
  | _ => []

/-- The bytes that a call sent out. -/
def writtenBy : Call → Bytes
  | .write bytes (.ok n) => bytes.take n
  | _ => []

/-- The progress that a call told of. -/
def toldBy : Call → Option (Nat × Nat)
  | .progress done total => some (done, total)
  | _ => none

def received (j : Journal) : Bytes := j.flatMap receivedBy
def written (j : Journal) : Bytes := j.flatMap writtenBy
def told (j : Journal) : List (Nat × Nat) := j.filterMap toldBy

@[simp] theorem received_append (j k : Journal) : received (j ++ k) = received j ++ received k := by
  simp [received]

@[simp] theorem written_append (j k : Journal) : written (j ++ k) = written j ++ written k := by
  simp [written]

@[simp] theorem told_append (j k : Journal) : told (j ++ k) = told j ++ told k := by
  simp [told]

@[simp] theorem received_nil : received [] = [] := rfl
@[simp] theorem written_nil : written [] = [] := rfl
@[simp] theorem told_nil : told [] = [] := rfl

theorem received_cons (c : Call) (j : Journal) : received (c :: j) = receivedBy c ++ received j := by
  simp [received]

theorem written_cons (c : Call) (j : Journal) : written (c :: j) = writtenBy c ++ written j := by
  simp [written]

theorem told_cons (c : Call) (j : Journal) : told (c :: j) = (toldBy c).toList ++ told j := by
  unfold told
  rw [List.filterMap_cons]
  cases toldBy c <;> rfl

/-- Nothing was sent, and nobody was told of progress. -/
structure Listens (j : Journal) : Prop where
  written_nil : written j = []
  told_nil : told j = []

theorem Listens.nil : Listens [] := ⟨rfl, rfl⟩

theorem Listens.append {j k : Journal} (hj : Listens j) (hk : Listens k) : Listens (j ++ k) :=
  ⟨by rw [written_append, hj.written_nil, hk.written_nil, List.nil_append],
    by rw [told_append, hj.told_nil, hk.told_nil, List.nil_append]⟩

/-- The front of `bytes` was sent, nothing came in, and nobody was told of progress. -/
structure Sends (bytes : Bytes) (j : Journal) : Prop where
  written_prefix : written j <+: bytes
  received_nil : received j = []
  told_nil : told j = []

end Journal

/-- A transport with the calls that were made on it. -/
structure Recorded (δ : Type) where
  device : δ
  journal : Journal

namespace Recorded

variable {δ α : Type}

/-- Makes a call and takes it down. -/
def call (entry : α → Call) (x : δ → α × δ) (r : Recorded δ) : α × Recorded δ :=
  ((x r.device).1, ⟨(x r.device).2, r.journal ++ [entry (x r.device).1]⟩)

/-- Tells of progress and takes that down. -/
def tell (progress : Nat → Nat → δ → δ) (done total : Nat) (r : Recorded δ) : Recorded δ :=
  ⟨progress done total r.device, r.journal ++ [.progress done total]⟩

variable [Bench δ]

instance : Bench (Recorded δ) where
  now r := Bench.now r.device
  sleep t r := { r with device := Bench.sleep t r.device }
  note level text r := { r with device := Bench.note level text r.device }
  libraries := Bench.libraries δ
  now_sleep t r := Bench.now_sleep t r.device

variable [Transport δ]

instance : Transport (Recorded δ) where
  name r := Transport.name r.device
  timeout r := Transport.timeout r.device
  setTimeout t := call (.setTimeout t) (Transport.setTimeout t)
  read n := call .read (Transport.read n)
  write bytes := call (.write bytes) (Transport.write bytes)
  flush := call .flush Transport.flush
  clear := call .clear Transport.clear
  reopen := call .reopen Transport.reopen
  close := call .close Transport.close
  backlog r := Transport.backlog r.device
  interruptions r := Transport.interruptions r.device
  setTimeout_ok t r r' h := by
    obtain ⟨h1, rfl⟩ := Prod.mk.inj h
    exact Transport.setTimeout_ok t r.device _ (Prod.ext h1 rfl)
  read_data n r r' b bs h := by
    obtain ⟨h1, rfl⟩ := Prod.mk.inj h
    exact Transport.read_data n r.device _ b bs (Prod.ext h1 rfl)
  read_idle n r r' f h := by
    obtain ⟨h1, rfl⟩ := Prod.mk.inj h
    exact Transport.read_idle n r.device _ f (Prod.ext h1 rfl)
  write_interrupted bytes r r' f h := by
    obtain ⟨h1, rfl⟩ := Prod.mk.inj h
    exact Transport.write_interrupted bytes r.device _ f (Prod.ext h1 rfl)

end Recorded

/-- A session over the same transport, recorded from here on. -/
def Session.recorded {δ : Type} (s : Session δ) : Session (Recorded δ) :=
  ⟨⟨s.device, []⟩, s.buffer, s.log, s.closed⟩

/-- The session without its record. -/
def Session.plain {δ : Type} (s : Session (Recorded δ)) : Session δ :=
  ⟨s.device.device, s.buffer, s.log, s.closed⟩

end BoardBench
