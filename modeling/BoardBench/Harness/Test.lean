import BoardBench.Harness.Verdict
import BoardBench.Image
import BoardBench.Session

/-!
# Tests

A test says how the board is to be prepared and what is then done with it. What is done is its body;
the usual body sends a shell command and expects some patterns in order.
-/

namespace BoardBench

/-- A session and what has become so far of the test that runs on it. -/
structure Trial (δ : Type) where
  session : Session δ
  verdict : Verdict

namespace Trial

variable {δ : Type}

/-- An action on the session alone. -/
def onSession {α : Type} (x : Act (Session δ) α) : Act (Trial δ) α :=
  Act.zoom (·.session) (fun s t => { t with session := s }) x

/-- Changes the verdict. -/
def judge (f : Verdict → Verdict) : Act (Trial δ) Unit :=
  Act.change fun t => { t with verdict := f t.verdict }

end Trial

/-- The part of a test that exercises the booted board. -/
structure Body (δ : Type) where
  /-- The shell command that it sends, for messages. -/
  command : Option String := none
  /-- Runs the body; no wait is to be longer than the span. -/
  run : Span → Act (Trial δ) Unit

namespace Body

variable {δ : Type} [Bench δ] [Transport δ]

/-- Names the command in an error, if there is one. -/
def inContext (command : Option String) (e : Error) : Error :=
  match command with
  | some c => e.withCommand c
  | none => e

/-- Waits for patterns, one after the other. -/
def expectAll (command : Option String) (timeout : Span) : List Pattern → Act (Session δ) Unit
  | [] => return ()
  | p :: ps => do
    let _ ← (Session.expect [p] timeout).mapError (inContext command)
    expectAll command timeout ps

/-- Sends a shell command, if there is one, and expects its echo and then the patterns in order. -/
def expecting (command : Option String) (patterns : List Pattern) : Body δ where
  command
  run timeout := Trial.onSession do
    match command with
    | some c =>
      Session.sendLine (Bytes.ofText c)
      let _ ← (Session.expectExact (Bytes.ofText c) timeout).mapError (inContext command)
    | none => pure ()
    expectAll command timeout patterns

end Body

/-- How the shell is waited for; what is not given is taken from the target. -/
structure ShellOptions where
  prompt : Option String := none
  bootupTimeout : Option Span := none
  deriving DecidableEq, Repr

/-- A test. -/
structure Test (δ : Type) where
  name : String
  /-- Reboot first. -/
  shouldReboot : Bool := true
  /-- Pass through the bootloader first, and load these applications. -/
  bootloader : Option (List AppSpec) := none
  /-- Wait for the shell first. -/
  shell : Option ShellOptions := none
  body : Body δ
  /-- Do not run. -/
  ignore : Bool := false
  /-- Longest wait of the body and for the prompt after it. -/
  timeout : Span := .ofSeconds 30
  /-- Keep the kernel silent while the body runs. -/
  suppressKernelLog : Bool := false

/-- Whether the test passes through the bootloader. -/
def Test.needsAppLoad {δ : Type} (t : Test δ) : Bool := t.bootloader.isSome

end BoardBench
