import BoardBench.Machine.SerialLines

/-!
# Consoles of boards

The console of a board is a serial line. The timeout of its reads is remembered here, so that a line
is told only of changes, and so that it has the same timeout when it is opened again.
-/

namespace BoardBench

/-- The line of a board. -/
structure SerialConfig where
  /-- Device of the adapter. -/
  port : String
  baud : Nat
  timeout : Span := .ofMillis 100
  deriving DecidableEq, Repr

/-- The console of a board. -/
structure SerialConsole where
  config : SerialConfig
  /-- The line, while it is open. -/
  line : Option Nat
  /-- How long a board has to show up again when it is reopened. -/
  reopenTimeout : Span := .ofSeconds 10
  deriving Repr

namespace SerialConsole

def closedFault : Fault := ⟨.notConnected, "port closed"⟩

/-- How often a board that is to show up again is looked for. -/
def reopenStep : Span := .ofMillis 200

variable {δ : Type} [Bench δ] [SerialLines δ]

/-- Opens the line of a configuration. -/
def openLine (config : SerialConfig) (d : δ) : Except Error Nat × δ :=
  SerialLines.openLine config.port config.baud config.timeout d

/-- A console of a line that is opened. -/
def connect (config : SerialConfig) (d : δ) : Except Error SerialConsole × δ :=
  match openLine config d with
  | (.ok line, d) => (.ok { config, line := some line }, d)
  | (.error e, d) => (.error e, d)

/-- Sets the timeout; a line that has it already is left alone. -/
def setTimeout (t : Span) (c : SerialConsole) (d : δ) : Except Error Unit × SerialConsole × δ :=
  if t = c.config.timeout then (.ok (), c, d)
  else
    match c.line with
    | none => (.ok (), { c with config := { c.config with timeout := t } }, d)
    | some line =>
      match SerialLines.setLineTimeout line t d with
      | (.ok _, d) => (.ok (), { c with config := { c.config with timeout := t } }, d)
      | (.error e, d) => (.error e, c, d)

/-- Lets go of the line. -/
def close (c : SerialConsole) (d : δ) : SerialConsole × δ :=
  match c.line with
  | none => (c, d)
  | some line => ({ c with line := none }, SerialLines.closeLine line d)

/-- Tries to open the line until it works or the time since `start` is over. -/
def reopenSince (start : Nat) (c : SerialConsole) (d : δ) :
    Except Error Unit × SerialConsole × δ :=
  match openLine c.config d with
  | (.ok line, d') => (.ok (), { c with line := some line }, d')
  | (.error e, d') =>
    if c.reopenTimeout.nanos ≤ Bench.now d' - start then (.error e, c, d')
    else if Bench.now d' < Bench.now d then (.error e, c, d')
    else reopenSince start c (Bench.sleep reopenStep d')
termination_by start + c.reopenTimeout.nanos - Bench.now d
decreasing_by
  rw [Bench.now_sleep]
  simp only [reopenStep, Span.ofMillis]
  omega

/-- Opens the line again, when the board has shown up. -/
def reopen (c : SerialConsole) (d : δ) : Except Error Unit × SerialConsole × δ :=
  let (c, d) := close c d
  reopenSince (Bench.now d) c d

def read (n : Nat) (c : SerialConsole) (d : δ) : Except Fault Bytes × δ :=
  match c.line with
  | some line => SerialLines.readLine line n d
  | none => (.error closedFault, d)

def write (bytes : Bytes) (c : SerialConsole) (d : δ) : Except Fault Nat × δ :=
  match c.line with
  | some line => SerialLines.writeLine line bytes d
  | none => (.error closedFault, d)

def flush (c : SerialConsole) (d : δ) : Except Fault Unit × δ :=
  match c.line with
  | some line => SerialLines.flushLine line d
  | none => (.error closedFault, d)

/-- Drops what has arrived and what was not yet sent. -/
def clear (c : SerialConsole) : Act δ Unit :=
  match c.line with
  | some line => SerialLines.clearLine line
  | none => Act.change id

end SerialConsole
end BoardBench
