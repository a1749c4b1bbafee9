import BoardBench.Pattern
import BoardBench.Session.LogSink
import BoardBench.Transport

/-!
# Sessions

A session is a transport with the bytes that were read from it and not yet used. `expect` reads
until one of some patterns stands in the buffer: what precedes the match is handed out with it, what
follows stays for later.
-/

namespace BoardBench

/-- A live connection to a board. -/
structure Session (δ : Type) where
  device : δ
  /-- What was read and not yet handed out. -/
  buffer : Bytes
  log : Option LogSink
  closed : Bool

/-- What came of one read. -/
inductive Fill where
  | data | idle | ended
  deriving DecidableEq, Repr

namespace Session

variable {δ : Type}

/-- A session over an open transport. -/
def ofDevice (d : δ) : Session δ := ⟨d, [], none, false⟩

/-- Longest wait of one read while a pattern is awaited. -/
def pollInterval : Span := .ofMillis 100

/-- Longest wait of one read while stale bytes are dropped. -/
def drainWait : Span := .ofMillis 20

/-- How long stale bytes are dropped at most, if the board never falls silent. -/
def drainLimit : Span := .ofSeconds 1

/-- Shortest timeout that a read is given. -/
def shortestWait : Span := .ofMillis 1

/-- Most bytes that one read asks for. -/
def readChunk : Nat := 1024

/-- What ends a line that is sent. -/
def lineEnd : Bytes := [0x0D]

/-- An action on the transport alone. -/
def onDevice {α : Type} (x : Act δ α) : Act (Session δ) α :=
  Act.zoom (·.device) (fun d s => { s with device := d }) x

/-- Changes the transport's world without failing. -/
def touch (f : δ → δ) : Act (Session δ) Unit := Act.change fun s => { s with device := f s.device }

/-- Gives the sink a copy of bytes; it does not matter whether it takes them. -/
def copyToLog (bytes : Bytes) (s : Session δ) : Session δ :=
  { s with log := s.log.map fun sink => (sink.write bytes).2 }

/-- Flushes the sink; it does not matter whether it can. -/
def flushLog (s : Session δ) : Session δ := { s with log := s.log.map fun sink => sink.flush.2 }

/-- Replaces the sink, or removes it. -/
def setLog (sink : Option LogSink) : Act (Session δ) Unit :=
  Act.change fun s => { s with log := sink }

variable [Bench δ] [Transport δ]

def note (level : Level) (text : String) : Act (Session δ) Unit := touch (Bench.note level text)

def sleep (t : Span) : Act (Session δ) Unit := touch (Bench.sleep t)

/-- The time on the session's clock. -/
def now (s : Session δ) : Nat := Bench.now s.device

/-- Writes bytes. -/
def send (bytes : Bytes) : Act (Session δ) Unit := do
  onDevice (Transport.writeAll bytes)
  Act.change (copyToLog bytes)

/-- Writes a line. -/
def sendLine (line : Bytes) : Act (Session δ) Unit := send (line ++ lineEnd)

/-- Reads once, waiting at most `wait`. -/
def fill (wait : Span) : Act (Session δ) Fill := fun s =>
  match Transport.setTimeout ⟨max wait.nanos shortestWait.nanos⟩ s.device with
  | (.error e, d) => (.error e, { s with device := d })
  | (.ok _, d) =>
    match Transport.read readChunk d with
    | (.ok [], d') => (.ok .ended, { s with device := d' })
    | (.ok bytes, d') =>
      (.ok .data, copyToLog bytes { s with device := d', buffer := s.buffer ++ bytes })
    | (.error f, d') =>
      if f.kind.isIdle then (.ok .idle, { s with device := d' })
      else (.error (.io f), { s with device := d' })

/-- A read that does not end the stream takes time or uses up a part of the backlog. -/
theorem fill_progress {wait : Span} {s s' : Session δ} {r : Fill}
    (h : fill wait s = (.ok r, s')) (hr : r ≠ .ended) :
    s.now < s'.now ∨ s.now = s'.now ∧
      Transport.backlog s'.device < Transport.backlog s.device := by
  unfold fill at h
  split at h
  · simp at h
  · rename_i d hset
    have hs := Transport.setTimeout_ok _ _ _ hset
    have hpos : 0 < (Transport.timeout d).nanos := by
      rw [hs.1]; simp only [shortestWait, Span.ofMillis]; omega
    split at h
    · simp only [Prod.mk.injEq, Except.ok.injEq] at h
      exact absurd h.1.symm hr
    · rename_i bytes d' hne hread
      simp only [Prod.mk.injEq, Except.ok.injEq] at h
      obtain ⟨rfl, rfl⟩ := h
      cases bytes with
      | nil => exact (hne rfl).elim
      | cons b bs =>
        have := Transport.read_data _ _ _ _ _ hread
        simp only [now, copyToLog]
        omega
    · rename_i f d' hread
      split at h
      · rename_i hidle
        simp only [Prod.mk.injEq, Except.ok.injEq] at h
        obtain ⟨rfl, rfl⟩ := h
        have := Transport.read_idle _ _ _ _ hread hidle hpos
        simp only [now]
        omega
      · simp at h

/-- Reads until a pattern stands in the buffer or `timeout` has passed since `start`. -/
def expectSince (start : Nat) (ps : List Pattern) (timeout : Span) (s : Session δ) :
    Except Error Match × Session δ :=
  match Pattern.earliest? ps s.buffer with
  | some (index, found) =>
    (.ok { index, groups := found.groups, before := s.buffer.take found.start,
           matched := (s.buffer.take found.finish).drop found.start },
     { s with buffer := s.buffer.drop found.finish })
  | none =>
    let elapsed := s.now - start
    if timeout.nanos ≤ elapsed then
      (.error (.streamTimeout (Pattern.describeAll ps) timeout (Text.lossy s.buffer)), s)
    else
      match _h : fill ⟨min (timeout.nanos - elapsed) pollInterval.nanos⟩ s with
      | (.error e, s') => (.error e, s')
      | (.ok .ended, s') =>
        (.error (.endOfStream (Pattern.describeAll ps) (Text.lossy s'.buffer)), s')
      | (.ok .data, s') => expectSince start ps timeout s'
      | (.ok .idle, s') => expectSince start ps timeout s'
termination_by (start + timeout.nanos - s.now, Transport.backlog s.device)
decreasing_by
  all_goals
    have hp := fill_progress _h (by decide)
    simp only [Prod.lex_def]
    omega

/-- Waits until one of the patterns arrives. -/
def expect (ps : List Pattern) (timeout : Span) : Act (Session δ) Match :=
  fun s => expectSince s.now ps timeout s

/-- Waits for exact bytes. -/
def expectExact (bytes : Bytes) (timeout : Span) : Act (Session δ) Match :=
  expect [.literal bytes] timeout

/-- At most `max` bytes: those in the buffer, or if there are none those of one read. -/
def readRaw (max : Nat) (timeout : Span) : Act (Session δ) Bytes := do
  if (← Act.state).buffer.isEmpty then
    let _ ← fill timeout
  let s ← Act.state
  Act.change fun s => { s with buffer := s.buffer.drop max }
  return s.buffer.take max

/-- Reads and drops until the board falls silent or the limit has passed since `start`. -/
def drainSince (start : Nat) (s : Session δ) : Except Error Unit × Session δ :=
  if drainLimit.nanos ≤ s.now - start then (.ok (), s)
  else
    match _h : fill drainWait s with
    | (.error e, s') => (.error e, s')
    | (.ok .data, s') => drainSince start s'
    | (.ok .idle, s') => (.ok (), s')
    | (.ok .ended, s') => (.ok (), s')
termination_by (start + drainLimit.nanos - s.now, Transport.backlog s.device)
decreasing_by
  have hp := fill_progress _h (by decide)
  simp only [Prod.lex_def]
  omega

/-- Drops everything that was read and everything that has arrived. -/
def clearBuffer : Act (Session δ) Unit := do
  Act.change fun s => { s with buffer := [] }
  onDevice Transport.clear
  fun s => drainSince s.now s
  Act.change fun s => { s with buffer := [] }

/-- Tears the transport down and brings it up again. -/
def reopen : Act (Session δ) Unit := do
  Act.change fun s => { s with buffer := [] }
  onDevice Transport.reopen
  Act.change fun s => { s with closed := false }

/-- Releases the transport; a closed one stays closed. -/
def close : Act (Session δ) Unit := fun s =>
  if s.closed then (.ok (), s)
  else onDevice Transport.close (flushLog { s with closed := true })

/-- Ends the session: the transport is released if it still is open. -/
def drop (s : Session δ) : Session δ := (close s).2

end Session
end BoardBench
