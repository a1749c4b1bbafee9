import BoardBench.Runner
import BoardBench.Sim.Board
import BoardBench.Sim.Child
import BoardBench.Sim.FileTree
import BoardBench.Sim.Libraries
import BoardBench.Sim.Person
import BoardBench.Sim.Wire
import BoardBench.Target.Programming

/-!
# Simulated benches

A bench with everything on it played: the board, the processes, the files, the serial adapters and
the operator. Nothing happens on it but what its parts make happen, so a run can be repeated.

The clock has two hands. Waiting for the board moves only the first, so that a board may be silent
for hours while the processes next to it do not age; everything else moves both.
-/

namespace BoardBench.Sim

/-- Something that happened and when. -/
inductive Event where
  /-- A line was driven, after so many clears of the board. -/
  | line (setting : String) (clears : Nat)
  | reboot (options : RebootOptions)
  | progress (step : String) (done total : Nat)
  | report (what : Report)
  /-- Applications were loaded. -/
  | load (files : List String)
  /-- The body of a test began. -/
  | body
  deriving DecidableEq, Repr

/-- How the bench reaches the board. -/
inductive Link where
  /-- The board itself. -/
  | board
  | process (c : ProcessConsole)
  | serial (c : SerialConsole)
  deriving Repr

/-- A simulated bench. -/
structure World where
  /-- The time of the processes, in nanoseconds. -/
  real : Nat := 0
  /-- How much longer the board was waited for. -/
  skew : Nat := 0
  link : Link := .board
  board : Board := {}
  children : List Child := []
  files : FileTree := .empty
  /-- Programs are also looked for in the directory `bin`. -/
  ownPrograms : Bool := false
  wires : List Wire := []
  person : Person := {}
  /-- What got to the screen, the latest first. -/
  screen : List Shown := []
  /-- What happened and when, the latest first. -/
  events : List (Event × Nat) := []
  /-- How often the bench was interrupted. -/
  interrupts : Nat := 0
  /-- Shown when the bench is first interrupted. -/
  interruptText : String := ""
  /-- A second interrupt has ended everything. -/
  aborted : Bool := false
  /-- How often it was asked whether to stop. -/
  checks : Nat := 0
  deriving Repr

namespace World

/-- The time, in nanoseconds. -/
def now (w : World) : Nat := w.real + w.skew

/-- Puts something on the screen, unless everything has ended. -/
def «show» (s : Shown) (w : World) : World :=
  if w.aborted then w else { w with screen := s :: w.screen }

/-- Takes note of an event. -/
def record (e : Event) (w : World) : World := { w with events := (e, w.now) :: w.events }

/-- Sets the time of the processes. -/
def atTime (real skew : Nat) (w : World) : World := { w with real, skew }

/-- `after`, a nanosecond later if it took no time and used nothing up. -/
def paid (size : World → Nat) (before after : World) : World :=
  if before.now < after.now ∨ before.now = after.now ∧ size after < size before then after
  else after.atTime (after.real + (before.now + 1 - after.now)) after.skew

theorem paid_spec (size : World → Nat) (before after : World) :
    before.now < (paid size before after).now ∨
      before.now = (paid size before after).now ∧ size (paid size before after) < size before := by
  unfold paid
  split
  · assumption
  · left
    simp only [now, atTime]
    omega

/-! ## Processes -/

/-- Does to the machine what a process does to it. -/
def deed (cwd : List String) (d : Deed) (w : World) : World :=
  if w.aborted then w
  else
    match d with
    | .write path bytes => { w with files := (w.files.writeFrom cwd path bytes).2 }
    | .interrupt =>
      let w := { w with interrupts := w.interrupts + 1 }
      if w.interrupts = 1 then w.show (.text w.interruptText) else { w with aborted := true }

/-- Most steps that a process takes at one time. -/
def stepLimit : Nat := 20000

/-- Lets one process go on until now. -/
def resumeOne (w : World) (c : Child) : World :=
  let (c, deeds) := c.resume w.real stepLimit
  let w := { w with children := w.children.map fun d => if d.pid = c.pid then c else d }
  deeds.foldl (fun w d => w.deed c.cwd d) w

/-- Lets the processes go on until a time. -/
def advance (real : Nat) (w : World) : World :=
  let w := { w with real := max w.real real }
  (w.children.foldl resumeOne w).atTime w.real w.skew

theorem now_advance (real : Nat) (w : World) : (w.advance real).now = max w.real real + w.skew := rfl

/-- Lets time pass. -/
def pass (t : Span) (w : World) : World := (w.advance (w.real + t.nanos)).atTime (w.real + t.nanos) w.skew

instance : Bench World where
  now := now
  sleep := pass
  note level text w := w.show (.note level text)
  libraries := libraries
  now_sleep t w := by simp [pass, atTime, now]; omega

def child? (pid : Nat) (w : World) : Option Child := w.children.find? (·.pid == pid)

def updateChild (pid : Nat) (f : Child → Child) (w : World) : World :=
  { w with children := w.children.map fun c => if c.pid = pid then f c else c }

/-- Lets the processes go on until `ready` holds of one of them, or the time `deadline`. -/
def awaitChild (pid : Nat) (ready : World → Child → Bool) (deadline : Nat) : Nat → World → World
  | 0, w => w.advance deadline
  | fuel + 1, w =>
    let w := w.advance w.real
    match w.child? pid with
    | none => w
    | some c =>
      if ready w c then w
      else
        match c.nextTime with
        | none => w.advance deadline
        | some t =>
          if t ≤ deadline && w.real < t then awaitChild pid ready deadline fuel (w.advance t)
          else w.advance deadline

/-- Most times that a process is resumed while it is waited for. -/
def waitLimit : Nat := 2000

/-- How long a program takes to get going. -/
def startTime : Nat := 1000000

/-- What a program does that every machine has. -/
def systemProgram? (name : String) (args : List String) : Option (List Shell.Command × List String) :=
  let word (s : String) : Shell.Word := [.text (Bytes.ofText s)]
  match name, args with
  | "sh", "-c" :: script :: rest => some (Shell.read script, rest.drop 1)
  | "bash", "-c" :: script :: rest => some (Shell.read script, rest.drop 1)
  | name, args =>
    if ["cat", "echo", "printf", "sleep", "true", "false"].contains name then
      some ([.simple ((name :: args).map word) none false], [])
    else none

/-- What a program does, and the arguments that it sees. -/
def program (name : String) (args : List String) (w : World) :
    Except Fault (List Shell.Command × List String) :=
  let fromFile (path : String) : Except Fault (List Shell.Command × List String) :=
    match w.files.locate path with
    | .found _ (.file bytes true) => .ok (Shell.read (Text.lossy bytes), args)
    | .found _ _ => .error .permissionDenied
    | .missing _ => .error .noSuchFile
    | .fault f => .error f
  let found := match systemProgram? name args with
    | some p => .ok p
    | none => .error .noSuchFile
  if name.contains '/' then
    match name.splitOn "/" with
    | ["", "bin", short] => (systemProgram? short args).elim (fromFile name) .ok
    | ["", "usr", "bin", short] => (systemProgram? short args).elim (fromFile name) .ok
    | _ => fromFile name
  else if w.ownPrograms then
    match fromFile ("bin/" ++ name) with
    | .ok p => .ok p
    | .error _ => found
  else found

/-- Starts a process. -/
def spawn (launch : Launch) (w : World) : Except Fault Nat × World :=
  let cwd : Except Fault (List String) := match launch.cwd with
    | none => .ok w.files.home
    | some dir =>
      match w.files.locate dir with
      | .found p .directory => .ok p
      | .found _ _ => .error .notDirectory
      | .missing _ => .error .noSuchFile
      | .fault f => .error f
  match cwd, w.program launch.program launch.args with
  | .error f, _ => (.error f, w)
  | _, .error f => (.error f, w)
  | .ok cwd, .ok (commands, args) =>
    let pid := w.children.length + 2
    let child : Child := {
      pid, cwd
      args := args.map Bytes.ofText
      frames := commands.map .command
      inputOpen := launch.withInput
      wake := w.real + startTime }
    (.ok pid, { w with children := w.children ++ [child] })

/-- Looks at a process when it has gone on until now. -/
def exitProbe (pid : Nat) : ExitProbe World where
  look w :=
    let w := w.advance w.real
    ((w.child? pid).bind (·.fate), w)
  now_look w := by
    show w.now ≤ (w.advance w.real).now
    rw [now_advance, Nat.max_self]
    exact Nat.le_refl _

def awaitExit (pid : Nat) (t : Span) (w : World) : Except Fault (Option ExitStatus) × World :=
  (.ok ((exitProbe pid).waitFor t w).1, ((exitProbe pid).waitFor t w).2)

/-- Bound on what can be received of the output of a process. -/
def outputBacklog (pid : Nat) (w : World) : Nat :=
  ((w.child? pid).map fun c => c.output.foldr (fun b n => b.length + 1 + n) 0).getD 0

def awaitOutput (pid : Nat) (t : Span) (w : World) : Output × World :=
  let ready (w : World) (c : Child) : Bool := !c.output.isEmpty || c.isSilent w.real
  let w' := w.awaitChild pid ready (w.real + t.nanos) waitLimit
  match w'.child? pid with
  | none => (.ended, w')
  | some c =>
    match c.output with
    | bytes :: rest =>
      (.chunk bytes, paid (outputBacklog pid) w (w'.updateChild pid fun c => { c with output := rest }))
    | [] => (if c.isSilent w'.real then .ended else .nothing, w')

def takeOutput (pid : Nat) (w : World) : Option Bytes × World :=
  match (w.child? pid).map (·.output) with
  | some (bytes :: rest) => (some bytes, w.updateChild pid fun c => { c with output := rest })
  | _ => (none, w)

theorem child?_updateChild {pid : Nat} {f : Child → Child} (hf : ∀ c, (f c).pid = c.pid) (w : World) :
    (w.updateChild pid f).child? pid = (w.child? pid).map f := by
  have hpid : ((·.pid == pid) ∘ fun c => if c.pid = pid then f c else c) = (·.pid == pid) := by
    funext c
    simp only [Function.comp_apply]
    split
    · rw [hf]
    · rfl
  rw [child?, updateChild, List.find?_map, hpid, ← child?]
  cases hc : w.child? pid with
  | none => rfl
  | some c =>
    rw [child?] at hc
    have hc' := List.find?_some hc
    simp [eq_of_beq hc']

theorem takeOutput_some (pid : Nat) (w w' : World) (bytes : Bytes)
    (h : takeOutput pid w = (some bytes, w')) : outputBacklog pid w' < outputBacklog pid w := by
  unfold takeOutput at h
  split at h
  · rename_i bs rest hout
    cases h
    obtain ⟨c, hc, houtput⟩ := Option.map_eq_some_iff.1 hout
    have hlater := @child?_updateChild pid (fun c => { c with output := rest }) (fun _ => rfl) w
    rw [hc] at hlater
    simp only [outputBacklog, hlater, hc, Option.map_some, Option.getD_some, houtput, List.foldr_cons]
    omega
  · cases h

def sendInput (pid : Nat) (bytes : Bytes) (w : World) : Except Fault Nat × World :=
  let w := w.advance w.real
  match w.child? pid with
  | none => (.error .brokenPipe, w)
  | some c =>
    if c.fate.isSome then (.error .brokenPipe, w)
    else (.ok bytes.length, (w.updateChild pid (·.feed w.real bytes)).advance w.real)

instance : Processes World where
  spawn := spawn
  awaitExit := awaitExit
  signal pid s w := (w.advance w.real).updateChild pid (·.signal s)
  awaitOutput := awaitOutput
  takeOutput := takeOutput
  sendInput := sendInput
  closeInput pid w := (w.updateChild pid (·.closeInput w.real)).advance w.real
  outputBacklog := outputBacklog
  awaitOutput_chunk p t w w' bs h := by
    show w.now < w'.now ∨ w.now = w'.now ∧ outputBacklog p w' < outputBacklog p w
    unfold awaitOutput at h
    simp only at h
    split at h
    · simp at h
    · split at h
      · simp only [Prod.mk.injEq, Output.chunk.injEq] at h
        rw [← h.2]
        exact paid_spec _ _ _
      · simp only [Prod.mk.injEq] at h
        split at h <;> simp at h
  takeOutput_some := takeOutput_some

/-! ## Files and the operator -/

instance : Files World where
  fileSize path w := w.files.size path
  isThere path w := w.files.isThere path
  readFile path w := w.files.read path
  list path w := w.files.list path
  realPath path w := w.files.realPath? path
  writeFile path bytes w :=
    let (r, files) := w.files.write path bytes
    (r, { w with files })

/-- What is told of a screen that cannot be seen. -/
def screenGone : Fault := ⟨.brokenPipe, "screen gone"⟩

instance : Operator World where
  discardLines w := { w with person := { w.person with lines := [] } }
  awaitLine t w :=
    match w.person.lines with
    | line :: rest => (.line line, { w with person := { w.person with lines := rest } })
    | [] => if w.person.ended then (.closed, w) else (.nothing, w.pass t)
  stopRequests w := w.interrupts
  display s w := if w.person.blind then (.error screenGone, w) else (.ok (), w.show (.text s))
  print s w := if w.person.blind then w else w.show (.text s)
  refresh w :=
    if w.person.blind then (.error screenGone, w)
    else (.ok (), { w.show .flush with person := w.person.react })

/-! ## Serial adapters -/

def wire? (line : Nat) (w : World) : Option Wire := w.wires[line]?

def updateWire (line : Nat) (f : Wire → Wire) (w : World) : World :=
  { w with wires := w.wires.modify line f }

/-- How the serial line words a fault. -/
def lineFault (f : Fault) : Error := .serial ((f.text.splitOn " (os error").headD "")

def openLine (path : String) (timeout : Span) (w : World) : Except Error Nat × World :=
  match w.files.locate path with
  | .found _ (.adapter i) =>
    match w.wire? i with
    | some wire =>
      if wire.openHandle.isSome then (.error (.serial "Device or resource busy"), w)
      else (.ok i, w.updateWire i fun wire => { wire with openHandle := some timeout })
    | none => (.error (lineFault .noSuchFile), w)
  | .found _ .directory => (.error (lineFault .isDirectory), w)
  | .found _ _ => (.error (.serial "Not a typewriter"), w)
  | .missing _ => (.error (lineFault .noSuchFile), w)
  | .fault f => (.error (lineFault f), w)

def lineTimeout (line : Nat) (w : World) : Span := ((w.wire? line).bind (·.openHandle)).getD .zero

def readLine (line n : Nat) (w : World) : Except Fault Bytes × World :=
  let w := w.advance w.real
  match w.wire? line with
  | none => (.error ⟨.other, "Input/output error (os error 5)"⟩, w)
  | some wire =>
    if wire.toBench.isEmpty then (.error ⟨.timedOut, "Operation timed out"⟩, w.pass (w.lineTimeout line))
    else (.ok (wire.toBench.take n), w.updateWire line fun wire => { wire with toBench := wire.toBench.drop n })

instance : SerialLines World where
  openLine path _ timeout w := openLine path timeout w
  closeLine line w := w.updateWire line fun wire => { wire with openHandle := none }
  lineTimeout := lineTimeout
  setLineTimeout line t w := (.ok (), w.updateWire line fun wire => { wire with openHandle := some t })
  readLine := readLine
  writeLine line bytes w := (.ok bytes.length, w.updateWire line (·.send bytes))
  flushLine _ w := (.ok (), w)
  clearLine line w := (.ok (), w.updateWire line fun wire => { wire with toBench := [] })
  setSignal _ _ _ w := (.error (.serial "Not a typewriter"), w)

/-! ## The board -/

instance : Consoles World where
  openConsole kind w :=
    match kind with
    | .process config =>
      let (r, c, w) := ProcessConsole.spawn config w
      (r, { w with link := .process c })
    | .serial config =>
      match SerialConsole.connect config w with
      | (.ok c, w) => (.ok (), { w with link := .serial c })
      | (.error e, w) => (.error e, w)

/-- What the calls of a bench answer that has ended. -/
def abortFault : Fault := ⟨.other, "aborted"⟩

def linkTimeout (w : World) : Span :=
  match w.link with
  | .board => w.board.timeout
  | .process c => c.timeout
  | .serial c => c.config.timeout

/-- A bound on the reads that the link can serve without waiting. -/
def linkBacklog (w : World) : Nat :=
  match w.link with
  | .board => w.board.backlog
  | .process c => c.pending.length + ((c.child.map fun pid => outputBacklog pid w).getD 0)
  | .serial c => (((c.line.bind w.wire?).map fun wire => wire.toBench.length)).getD 0

/-- Reads from the link. -/
def linkRead (n : Nat) (w : World) : Except Fault Bytes × World :=
  match w.link with
  | .board =>
    let (r, time, board) := w.board.read n w.now
    (r, { w with board, skew := w.skew + (time - w.now) })
  | .process c =>
    let (r, c, w) := c.read n w
    (r, { w with link := .process c })
  | .serial c => c.read n w

def transportRead (n : Nat) (w : World) : Except Fault Bytes × World :=
  if w.aborted then (.error abortFault, w)
  else
    match linkRead n w with
    | (.ok [], w') => (.ok [], w')
    | (.ok (b :: bs), w') => (.ok (b :: bs), paid linkBacklog w w')
    | (.error f, w') =>
      if f.kind.isIdle && 0 < w.linkTimeout.nanos then (.error f, paid linkBacklog w w')
      else (.error f, w')

def transportSetTimeout (t : Span) : Act World Unit := fun w =>
  match w.link with
  | .board => (.ok (), { w with board := { w.board with timeout := t } })
  | .process c => (.ok (), { w with link := .process { c with timeout := t } })
  | .serial c =>
    let (r, c, w) := c.setTimeout t w
    (r, { w with link := .serial c })

def transportReopen : Act World Unit := fun w =>
  match w.link with
  | .board =>
    if w.board.canReopen then (.ok (), { w with board := w.board.reopen w.now })
    else (.error (Transport.cannotReopen w.board.name), w)
  | .process c =>
    let (r, c, w) := c.reopen w
    (r, { w with link := .process c })
  | .serial c =>
    let (r, c, w) := c.reopen w
    (r, { w with link := .serial c })

def transportClose : Act World Unit := fun w =>
  match w.link with
  | .board =>
    let (r, board) := w.board.close
    (r, { w with board })
  | .process c =>
    let (r, c, w) := c.stop w
    (r, { w with link := .process c })
  | .serial c =>
    let (c, w) := c.close w
    (.ok (), { w with link := .serial c })

def transportClear : Act World Unit := fun w =>
  match w.link with
  | .board =>
    let (r, board) := w.board.clear
    (r, { w with board })
  | .process c =>
    let (c, w) := c.clear w
    (.ok (), { w with link := .process c })
  | .serial c => c.clear w

def transportWrite (bytes : Bytes) (w : World) : Except Fault Nat × World :=
  if w.aborted then (.error abortFault, w)
  else
    match w.link with
    | .board =>
      let (r, board) := w.board.write w.now bytes
      (r, { w with board })
    | .process c => c.write bytes w
    | .serial c => c.write bytes w

theorem transportWrite_kind {bytes : Bytes} {w w' : World} {f : Fault}
    (h : transportWrite bytes w = (.error f, w')) : f.kind ≠ .interrupted := by
  have board (now : Nat) (b : Board) : ∀ g, (b.write now bytes).1 = .error g → g.kind ≠ .interrupted := by
    intro g hg
    simp only [Board.write] at hg
    split at hg
    · cases hg
    · split at hg
      · cases hg
        decide
      · cases hg
  have input (pid : Nat) (w : World) : ∀ g, (w.sendInput pid bytes).1 = .error g →
      g.kind ≠ .interrupted := by
    intro g hg
    simp only [sendInput] at hg
    split at hg
    · cases hg
      decide
    · split at hg <;> cases hg
      decide
  unfold transportWrite at h
  split at h
  · cases h
    decide
  · split at h
    · exact board _ _ f (Prod.mk.inj h).1
    · rename_i c _
      cases hchild : c.child with
      | none =>
        simp only [ProcessConsole.write, hchild] at h
        cases h
        decide
      | some pid =>
        simp only [ProcessConsole.write, hchild] at h
        exact input pid w f (congrArg Prod.fst h)
    · rename_i c _
      cases hline : c.line with
      | none =>
        simp only [SerialConsole.write, hline] at h
        cases h
        decide
      | some line =>
        simp only [SerialConsole.write, hline] at h
        cases h

theorem transportSetTimeout_ok (t : Span) (w w' : World) (h : transportSetTimeout t w = (.ok (), w')) :
    w'.linkTimeout = t ∧ (w.now < w'.now ∨ w.now = w'.now ∧ w'.linkBacklog ≤ w.linkBacklog) := by
  unfold transportSetTimeout at h
  split at h
  · rename_i hl
    simp only [Prod.mk.injEq, true_and] at h
    subst h
    simp [linkTimeout, linkBacklog, hl, now, Board.backlog]
  · rename_i c hl
    simp only [Prod.mk.injEq, true_and] at h
    subst h
    simp [linkTimeout, linkBacklog, hl, now, outputBacklog, child?]
  · rename_i c hl
    simp only [SerialConsole.setTimeout] at h
    split at h
    · rename_i ht
      simp only [Prod.mk.injEq, true_and] at h
      subst h
      simp [linkTimeout, linkBacklog, hl, now, wire?, ht]
    · cases hc : c.line with
      | none =>
        simp only [hc, Prod.mk.injEq, true_and] at h
        subst h
        simp [linkTimeout, linkBacklog, hl, now, hc]
      | some line =>
        simp only [hc, SerialLines.setLineTimeout, Prod.mk.injEq, true_and] at h
        subst h
        simp only [linkTimeout, linkBacklog, hl, now, updateWire, hc, Option.bind_some, wire?, true_and,
          List.getElem?_modify_eq]
        right
        cases w.wires[line]? <;> simp

theorem transportRead_data (n : Nat) (w w' : World) (b : UInt8) (bs : Bytes)
    (h : transportRead n w = (.ok (b :: bs), w')) :
    w.now < w'.now ∨ w.now = w'.now ∧ w'.linkBacklog < w.linkBacklog := by
  unfold transportRead at h
  split at h
  · simp at h
  · split at h
    · simp at h
    · simp only [Prod.mk.injEq] at h
      rw [← h.2]
      exact paid_spec _ _ _
    · split at h <;> simp at h

theorem transportRead_idle (n : Nat) (w w' : World) (f : Fault)
    (h : transportRead n w = (.error f, w')) (hf : f.kind.isIdle) (ht : 0 < w.linkTimeout.nanos) :
    w.now < w'.now ∨ w.now = w'.now ∧ w'.linkBacklog < w.linkBacklog := by
  unfold transportRead at h
  split at h
  · simp only [Prod.mk.injEq, Except.error.injEq] at h
    rw [← h.1] at hf
    exact absurd hf (by decide)
  · split at h
    · simp at h
    · simp at h
    · split at h
      · simp only [Prod.mk.injEq] at h
        rw [← h.2]
        exact paid_spec _ _ _
      · rename_i g _ _ hn
        simp only [Prod.mk.injEq, Except.error.injEq] at h
        rw [h.1] at hn
        simp [hf, ht] at hn

instance : Transport World where
  name w :=
    match w.link with
    | .board => w.board.name
    | .process c => c.config.program
    | .serial c => c.config.port
  timeout := linkTimeout
  setTimeout := transportSetTimeout
  read := transportRead
  write := transportWrite
  flush w :=
    match w.link with
    | .board => (.ok (), w)
    | .process c => (c.flush, w)
    | .serial c => c.flush w
  clear := transportClear
  reopen := transportReopen
  close := transportClose
  backlog := linkBacklog
  interruptions _ := 0
  setTimeout_ok := transportSetTimeout_ok
  read_data := transportRead_data
  read_idle := transportRead_idle
  write_interrupted _ _ _ _ h hf := absurd hf (transportWrite_kind h)

end World
end BoardBench.Sim
