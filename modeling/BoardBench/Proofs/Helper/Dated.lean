import BoardBench.Proofs.Helper.InStep

/-!
# Diaries

`Dated δ` is a machine `δ` with a diary of the signals that processes were sent and of the waits for
their end, each with the time at which it was begun. It answers as `δ` does (`Dated.processes_inStep`), so
a helper on it is waited for and stopped as it is on `δ` (`Helper.Request.performAll_plain`).
-/

namespace BoardBench

/-- What was done, and when it was begun, in the order in which it was done. -/
abbrev Diary := List (Nat × Entry)

/-- Whether a process was sent the signal that no process survives. -/
def Entry.isKill : Entry → Bool
  | signalled _ .kill => true
  | _ => false

namespace Diary

/-- How often a process was killed. -/
def kills (k : Diary) : Nat := k.countP (·.2.isKill)

theorem kills_append (k l : Diary) : kills (k ++ l) = kills k + kills l := List.countP_append

/-- Nothing was done but waiting for the end of the process. -/
def Looks (pid : Nat) (k : Diary) : Prop := ∀ e ∈ k, ∃ wait answer, e.2 = .awaited pid wait answer

/-- The process was seen to have ended with the status. -/
def Saw (pid : Nat) (status : ExitStatus) (k : Diary) : Prop :=
  ∃ begun wait, (begun, .awaited pid wait (.ok (some status))) ∈ k

variable {pid : Nat} {k l : Diary} {status : ExitStatus}

theorem Looks.nil : Looks pid [] := fun _ he => absurd he List.not_mem_nil

theorem Looks.singleton (n : Nat) (wait : Span) (answer : Except Fault (Option ExitStatus)) :
    Looks pid [(n, .awaited pid wait answer)] := by
  intro e he
  obtain rfl := List.mem_singleton.1 he
  exact ⟨wait, answer, rfl⟩

theorem Looks.append (hk : Looks pid k) (hl : Looks pid l) : Looks pid (k ++ l) := by
  intro e he
  rcases List.mem_append.1 he with he | he
  · exact hk e he
  · exact hl e he

theorem Looks.kills_eq (h : Looks pid k) : kills k = 0 := by
  refine List.countP_eq_zero.2 fun e he => ?_
  obtain ⟨wait, answer, heq⟩ := h e he
  rw [heq]
  exact Bool.false_ne_true

theorem saw_append : Saw pid status (k ++ l) ↔ Saw pid status k ∨ Saw pid status l := by
  unfold Saw
  simp only [List.mem_append, exists_or]

theorem saw_singleton {n : Nat} {wait : Span} {answer : Except Fault (Option ExitStatus)} :
    Saw pid status [(n, .awaited pid wait answer)] ↔ answer = .ok (some status) := by
  constructor
  · rintro ⟨_, _, h⟩
    cases List.mem_singleton.1 h
    rfl
  · rintro rfl
    exact ⟨n, wait, List.mem_singleton.2 rfl⟩

end Diary

/-- A machine with a diary. -/
structure Dated (δ : Type) where
  device : δ
  diary : Diary

namespace Dated

variable {δ α : Type} [Bench δ]

/-- Does something that the diary says nothing of. -/
def on (x : δ → α × δ) (c : Dated δ) : α × Dated δ :=
  ((x c.device).1, ⟨(x c.device).2, c.diary⟩)

/-- Does something and takes it down with the time. -/
def record (entry : α → Entry) (x : δ → α × δ) (c : Dated δ) : α × Dated δ :=
  ((x c.device).1, ⟨(x c.device).2, c.diary ++ [(Bench.now c.device, entry (x c.device).1)]⟩)

instance : Bench (Dated δ) where
  now c := Bench.now c.device
  sleep t c := { c with device := Bench.sleep t c.device }
  note level text c := { c with device := Bench.note level text c.device }
  libraries := Bench.libraries δ
  now_sleep t c := Bench.now_sleep t c.device

instance [Processes δ] : Processes (Dated δ) where
  spawn launch := on (Processes.spawn launch)
  awaitExit pid wait := record (.awaited pid wait) (Processes.awaitExit pid wait)
  signal pid signal c :=
    ⟨Processes.signal pid signal c.device, c.diary ++ [(Bench.now c.device, .signalled pid signal)]⟩
  awaitOutput pid wait := on (Processes.awaitOutput pid wait)
  takeOutput pid := on (Processes.takeOutput pid)
  sendInput pid bytes := on (Processes.sendInput pid bytes)
  closeInput pid c := { c with device := Processes.closeInput pid c.device }
  outputBacklog pid c := Processes.outputBacklog pid c.device
  awaitOutput_chunk pid wait c c' bytes h := by
    obtain ⟨h1, rfl⟩ := Prod.mk.inj h
    exact Processes.awaitOutput_chunk pid wait c.device _ bytes (Prod.ext h1 rfl)
  takeOutput_some pid c c' bytes h := by
    obtain ⟨h1, rfl⟩ := Prod.mk.inj h
    exact Processes.takeOutput_some pid c.device _ bytes (Prod.ext h1 rfl)

omit [Bench δ] in
theorem on_eq_iff {x : δ → α × δ} {c c' : Dated δ} {a : α} :
    on x c = (a, c') ↔ x c.device = (a, c'.device) ∧ c'.diary = c.diary := by
  unfold on
  rcases x c.device with ⟨b, d⟩
  rcases c' with ⟨d', k⟩
  constructor
  · intro h
    cases h
    exact ⟨rfl, rfl⟩
  · rintro ⟨h, rfl⟩
    cases h
    rfl

theorem record_eq_iff {entry : α → Entry} {x : δ → α × δ} {c c' : Dated δ} {a : α} :
    record entry x c = (a, c') ↔ x c.device = (a, c'.device) ∧
      c'.diary = c.diary ++ [(Bench.now c.device, entry a)] := by
  unfold record
  rcases x c.device with ⟨b, d⟩
  rcases c' with ⟨d', k⟩
  constructor
  · intro h
    cases h
    exact ⟨rfl, rfl⟩
  · rintro ⟨h, rfl⟩
    cases h
    rfl

/-- A diary changes nothing that is done with processes. -/
theorem processes_inStep [Processes δ] :
    Processes.InStep fun (c : Dated δ) (d : δ) => d = c.device where
  now c d h := by subst h; rfl
  note level text c d h := by subst h; rfl
  spawn launch c d h := by subst h; exact ⟨rfl, rfl⟩
  awaitExit pid wait c d h := by subst h; exact ⟨rfl, rfl⟩
  signal pid signal c d h := by subst h; rfl
  awaitOutput pid wait c d h := by subst h; exact ⟨rfl, rfl⟩

end Dated

/-- The same helper, on a machine that keeps a diary from here on. -/
def Tended.dated {δ : Type} (t : Tended δ) : Tended (Dated δ) := ⟨t.helper, ⟨t.machine, []⟩⟩

/-- The helper without the diary. -/
def Tended.plain {δ : Type} (t : Tended (Dated δ)) : Tended δ := ⟨t.helper, t.machine.device⟩

namespace Helper

variable {δ ε : Type} [Bench δ] [Processes δ] [Bench ε] [Processes ε] {D : δ → ε → Prop}

omit [Bench δ] [Processes δ] in
theorem alike_dated_iff {t : Tended (Dated δ)} {u : Tended δ} :
    Alike (fun c d => d = c.device) t u ↔ u = t.plain := by
  constructor
  · rintro ⟨hhelper, hmachine⟩
    cases u
    cases hhelper
    cases hmachine
    rfl
  · rintro rfl
    exact ⟨rfl, rfl⟩

theorem waitExit_relates (hD : Processes.InStep D) (wait : Span) :
    Act.Relates (Alike D) (waitExit wait) (waitExit wait) := by
  refine .state_bind fun t u htu => ?_
  rw [htu.helper]
  exact (Act.Relates.ite Iff.rfl (awaitStatus_relates hD wait) (.pure _)) t u htu

theorem drop_plain (t : Tended (Dated δ)) : drop t.plain = (drop t).plain :=
  alike_dated_iff.1
    (killQuietly_relates Dated.processes_inStep _ _ (alike_dated_iff.2 rfl)).2

/-- What can be asked of a helper that was started, until it is dropped. -/
inductive Request where
  | waitExit (wait : Span)
  | kill

namespace Request

def perform : Request → Act (Tended δ) (Option ExitStatus)
  | waitExit wait => Helper.waitExit wait
  | kill => (fun _ => none) <$> Helper.kill

/-- Meets the requests in order, each whatever came of those before. -/
def performAll : List Request → Tended δ → List (Except Error (Option ExitStatus)) × Tended δ
  | [], t => ([], t)
  | request :: requests, t =>
    let (x, t) := request.perform t
    let (xs, t) := performAll requests t
    (x :: xs, t)

theorem performAll_cons (request : Request) (requests : List Request) (t : Tended δ) :
    performAll (request :: requests) t =
      ((request.perform t).1 :: (performAll requests (request.perform t).2).1,
        (performAll requests (request.perform t).2).2) := rfl

theorem performAll_append (front back : List Request) (t : Tended δ) :
    performAll (front ++ back) t =
      ((performAll front t).1 ++ (performAll back (performAll front t).2).1,
        (performAll back (performAll front t).2).2) := by
  induction front generalizing t with
  | nil => rfl
  | cons request front ih => rw [List.cons_append, performAll_cons, ih, performAll_cons, List.cons_append]

theorem perform_relates (hD : Processes.InStep D) (request : Request) :
    Act.Relates (Alike D) request.perform request.perform := by
  cases request with
  | waitExit wait => exact waitExit_relates hD wait
  | kill => exact (kill_relates hD).map _

theorem performAll_relates (hD : Processes.InStep D) (requests : List Request) {t : Tended δ}
    {u : Tended ε} (htu : Alike D t u) : (performAll requests u).1 = (performAll requests t).1 ∧
      Alike D (performAll requests t).2 (performAll requests u).2 := by
  induction requests generalizing t u with
  | nil => exact ⟨rfl, htu⟩
  | cons request requests ih =>
    obtain ⟨hval, hrel⟩ := perform_relates hD request t u htu
    obtain ⟨hvals, hrels⟩ := ih hrel
    rw [performAll_cons, performAll_cons, hval, hvals]
    exact ⟨rfl, hrels⟩

theorem performAll_plain (requests : List Request) (t : Tended (Dated δ)) :
    performAll requests t.plain = ((performAll requests t).1, (performAll requests t).2.plain) := by
  obtain ⟨hval, hrel⟩ := performAll_relates Dated.processes_inStep requests
    (alike_dated_iff (t := t).2 rfl)
  exact Prod.ext hval (alike_dated_iff.1 hrel)

end Request
end Helper
end BoardBench
