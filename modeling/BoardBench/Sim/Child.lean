import BoardBench.Machine.Processes
import BoardBench.Sim.Shell.Reader
import BoardBench.Text.Utf8

/-!
# Simulated processes

A process of a simulated machine runs a script. It is resumed from time to time: it goes on until
it has to wait for input or for its time to come, and leaves behind what it printed and what it did
to the rest of the machine.
-/

namespace BoardBench.Sim

open Shell (Command Word Piece)

/-- What a process does to the machine. -/
inductive Deed where
  /-- Replaces the bytes of a file. -/
  | write (path : String) (bytes : Bytes)
  /-- Interrupts the bench. -/
  | interrupt
  deriving Repr

/-- What a process is to do next. -/
inductive Frame where
  | command (c : Command)
  /-- Goes on with the body and the loop if the test has succeeded. -/
  | decide (test body : List Command)
  /-- Copies its input. -/
  | copy
  | exit
  deriving Repr

/-- A process. -/
structure Child where
  pid : Nat
  cwd : List String
  args : List Bytes
  frames : List Frame
  vars : List (String × Bytes) := []
  /-- The exit status of the last command. -/
  status : Nat := 0
  input : Bytes := []
  inputOpen : Bool
  ignoresTerm : Bool := false
  /-- When it goes on. -/
  wake : Nat
  /-- Whether it waits for input. -/
  starved : Bool := false
  /-- What it printed and nobody received. -/
  output : List Bytes := []
  /-- Until when something that it left behind keeps its output open. -/
  heldUntil : Nat := 0
  fate : Option ExitStatus := none
  deriving Repr

namespace Child

/-- Largest piece of output that is received at once. -/
def pieceSize : Nat := 1024

/-- Bytes in pieces of at most that size. -/
def cut (bytes : Bytes) : List Bytes :=
  if _h : bytes.length ≤ pieceSize then (if bytes.isEmpty then [] else [bytes])
  else bytes.take pieceSize :: cut (bytes.drop pieceSize)
termination_by bytes.length
decreasing_by simp only [List.length_drop, pieceSize] at *; omega

/-- The value of a variable. -/
def value (name : String) (c : Child) : Bytes :=
  match name with
  | "$" => Bytes.ofText (toString c.pid)
  | "PPID" => Bytes.ofText "1"
  | "?" => Bytes.ofText (toString c.status)
  | "#" => Bytes.ofText (toString c.args.length)
  | "@" => [0x20].intercalate c.args
  | "*" => [0x20].intercalate c.args
  | name =>
    match Text.decimal? 1000 name with
    | some (n + 1) => (c.args[n]?).getD []
    | _ => ((c.vars.find? (·.1 == name)).map (·.2)).getD []

/-- The bytes of a word. -/
def expand (w : Word) (c : Child) : Bytes :=
  w.flatMap fun
    | .text bytes => bytes
    | .variable name => c.value name
    | .star => [0x2A]
    | .one => [0x3F]

/-- Whether bytes fit a pattern. -/
def fits : Nat → List (Option Bool × UInt8) → Bytes → Bool
  | 0, _, _ => false
  | _ + 1, [], bs => bs.isEmpty
  | fuel + 1, (some true, _) :: ps, bs =>
    fits fuel ps bs || (match bs with | [] => false | _ :: rest => fits fuel ((some true, 0) :: ps) rest)
  | fuel + 1, (some false, _) :: ps, _ :: rest => fits fuel ps rest
  | fuel + 1, (none, b) :: ps, c :: rest => b == c && fits fuel ps rest
  | _ + 1, _ :: _, [] => false

/-- Whether bytes fit the pattern of a word. -/
def matchesWord (w : Word) (bytes : Bytes) (c : Child) : Bool :=
  let pattern := w.flatMap fun
    | .star => [(some true, (0 : UInt8))]
    | .one => [(some false, (0 : UInt8))]
    | piece => (c.expand [piece]).map (none, ·)
  fits ((pattern.length + 1) * (bytes.length + 2)) pattern bytes

/-- A byte text with its escape sequences read and its `%` directives filled in. -/
def format : Nat → Bytes → List Bytes → Bytes
  | 0, _, _ => []
  | fuel + 1, bs, args =>
    match bs with
    | [] => []
    | 0x25 :: 0x25 :: rest => 0x25 :: format fuel rest args
    | 0x25 :: 0x73 :: rest => args.headD [] ++ format fuel rest args.tail
    | 0x25 :: 0x64 :: rest => args.headD [0x30] ++ format fuel rest args.tail
    | 0x5C :: rest =>
      if rest.isEmpty || 0x80 ≤ rest.headD 0 then 0x5C :: format fuel rest args
      else
        let chars := (rest.take 4).map fun b => Char.ofNat b.toNat
        let (bytes, left) := Shell.escape chars
        bytes ++ format fuel (rest.drop (chars.length - left.length)) args
    | b :: rest => b :: format fuel rest args

/-- Prints bytes, or leaves them in a file. -/
def emit (bytes : Bytes) (target : Option Word) (c : Child) : Child × List Deed :=
  match target with
  | some w => (c, [.write (Text.lossy (c.expand w)) bytes])
  | none => ({ c with output := c.output ++ cut bytes }, [])

/-- The process has ended. -/
def finish (status : ExitStatus) (c : Child) : Child := { c with fate := some status, frames := [] }

/-- A span in seconds and fractions, in nanoseconds. -/
def seconds? (s : String) : Option Nat :=
  match s.splitOn "." with
  | [whole] => (Text.decimal? 1000000000000 whole).map (· * 1000000000)
  | [whole, places] => do
    let n ← if whole.isEmpty then some 0 else Text.decimal? 1000000000000 whole
    let digits := (places.toList.take 9)
    let f ← Text.ofDigits? 10 Text.digit? digits
    return n * 1000000000 + f * Nat.pow 10 (9 - digits.length)
  | _ => none

/-- The number of a signal that is named without its first three letters, or numbered. -/
def signalNumber? (s : String) : Option Nat :=
  match Text.decimal? 64 s with
  | some n => some n
  | none => (signalNames.findIdx? (· == "SIG" ++ s)).map (· + 1)

/-- Takes a line that ends with a byte from the input; waits if it has not come. -/
def readLine (name : String) (ending : UInt8) (c : Child) : Child × List Deed :=
  match Bytes.indexOf? [ending] c.input with
  | some i =>
    ({ c with
        input := c.input.drop (i + 1)
        vars := (name, c.input.take i) :: c.vars.filter (·.1 != name)
        status := 0 }, [])
  | none =>
    if c.inputOpen then ({ c with starved := true }, [])
    else
      ({ c with
          input := []
          vars := (name, c.input) :: c.vars.filter (·.1 != name)
          status := 1 }, [])

/-- Sends a signal to a process. -/
def sendSignal (n : Nat) (target : String) (c : Child) : Child × List Deed :=
  if target == "1" then (c, if n == 2 then [.interrupt] else [])
  else if target == toString c.pid then (c.finish (.signal n), [])
  else ({ c with status := 1 }, [])

/-- The options of the command that reads a line: the byte that ends it, and the variable. -/
def readOptions : List Bytes → UInt8 → UInt8 × String
  | [], ending => (ending, "REPLY")
  | w :: rest, ending =>
    match Text.lossy w, rest with
    | "-d", d :: rest => readOptions rest (d.headD 0)
    | "-r", rest => readOptions rest ending
    | name, _ => (ending, name)

/-- Runs a simple command whose words are expanded; the frames that follow it are already in place. -/
def runWords (words : List Bytes) (target : Option Word) (c : Child) : Child × List Deed :=
  let ok := { c with status := 0 }
  let texts := words.map Text.lossy
  match texts with
  | "printf" :: _ :: _ =>
    let pattern := (words.drop 1).headD []
    ok.emit (format (pattern.length + 1) pattern (words.drop 2)) target
  | "echo" :: _ => ok.emit ([0x20].intercalate (words.drop 1) ++ [0x0A]) target
  | "cat" :: [] => ({ ok with frames := .copy :: ok.frames }, [])
  | ["sleep", t] => ({ ok with wake := ok.wake + (seconds? t).getD 0 }, [])
  | "exit" :: n => (c.finish (.code (((n.head?.bind (Text.decimal? 256)).getD c.status))), [])
  | "exec" :: _ => ({ c with frames := [.exit] }, [])
  | ["kill", signal, target] =>
    match signalNumber? (signal.drop 1).toString with
    | some n => ok.sendSignal n target
    | none => ({ c with status := 1 }, [])
  | ["trap", _, "TERM"] => ({ ok with ignoresTerm := true }, [])
  | "read" :: _ =>
    let (ending, name) := readOptions (words.drop 1) 0x0A
    c.readLine name ending
  | ["true"] => (ok, [])
  | [":"] => (ok, [])
  | ["false"] => ({ c with status := 1 }, [])
  | name :: _ =>
    { c with status := 127 }.emit (Bytes.ofText ("sh: 1: " ++ name ++ ": not found\n")) none
  | [] => (ok, [])

/-- Whether a word assigns a variable for one command only. -/
def isAssignment (w : Word) : Bool :=
  match w with
  | .text _ :: _ =>
    let plain := w.takeWhile fun p => match p with | .text _ => true | _ => false
    let text := plain.flatMap fun p => match p with | .text b => b | _ => []
    match Bytes.indexOf? [0x3D] text with
    | some (i + 1) => (text.take (i + 1)).all fun b => Shell.isNameChar (Char.ofNat b.toNat)
    | _ => false
  | _ => false

/-- Takes a step. A process that waits for input leaves things as they are. -/
def step (c : Child) : Child × List Deed :=
  match c.frames with
  | [] => (c.finish (.code c.status), [])
  | .exit :: _ => (c.finish (.code c.status), [])
  | .copy :: rest =>
    if !c.input.isEmpty then ({ c with output := c.output ++ cut c.input, input := [] }, [])
    else if c.inputOpen then ({ c with starved := true }, [])
    else ({ c with frames := rest, status := 0 }, [])
  | .decide test body :: rest =>
    if c.status == 0 then
      ({ c with frames := body.map .command ++ .command (.loop test body) :: rest }, [])
    else ({ c with frames := rest, status := 0 }, [])
  | .command (.loop test body) :: rest =>
    ({ c with frames := test.map .command ++ .decide test body :: rest }, [])
  | .command (.choice subject arms) :: rest =>
    let bytes := c.expand subject
    let body := (arms.find? fun (ps, _) => ps.any fun p => c.matchesWord p bytes).map (·.2)
    ({ c with frames := (body.getD []).map .command ++ rest }, [])
  | .command (.simple words target background) :: rest =>
    let words := words.dropWhile isAssignment
    let expanded := words.flatMap fun w => if w == [.text [], .variable "@"] then c.args else [c.expand w]
    let texts := expanded.map Text.lossy
    if background then
      match texts with
      | ["setsid", "sleep", t] =>
        ({ c with frames := rest, heldUntil := max c.heldUntil (c.wake + (seconds? t).getD 0) }, [])
      | _ => ({ c with frames := rest }, [])
    else
      match texts with
      | "exec" :: _ :: _ =>
        { c with frames := [.exit] }.runWords (expanded.drop 1) target
      | "read" :: _ =>
        let (c', deeds) := c.runWords expanded target
        if c'.starved then (c', deeds) else ({ c' with frames := rest }, deeds)
      | _ => { c with frames := rest }.runWords expanded target

/-- Goes on until `now`, at most so many steps. -/
def resume (now : Nat) : Nat → Child → Child × List Deed
  | 0, c => (c, [])
  | fuel + 1, c =>
    if c.fate.isSome || c.starved || now < c.wake then (c, [])
    else
      let (c, deeds) := c.step
      let (c, more) := resume now fuel c
      (c, deeds ++ more)

/-- Gives the process input. -/
def feed (now : Nat) (bytes : Bytes) (c : Child) : Child :=
  { c with input := c.input ++ bytes, starved := false, wake := max c.wake (if c.starved then now else c.wake) }

/-- Gives the process no more input. -/
def closeInput (now : Nat) (c : Child) : Child :=
  { c with inputOpen := false, starved := false, wake := if c.starved then max c.wake now else c.wake }

/-- Asks the process to stop. -/
def signal (s : StopSignal) (c : Child) : Child :=
  if c.fate.isSome then c
  else
    match s with
    | .kill => c.finish (.signal 9)
    | .term => if c.ignoresTerm then c else c.finish (.signal 15)

/-- Whether there will be no more output. -/
def isSilent (now : Nat) (c : Child) : Bool := c.fate.isSome && c.heldUntil ≤ now

/-- When something can happen next without help, if ever. -/
def nextTime (c : Child) : Option Nat :=
  if c.fate.isSome then some c.heldUntil
  else if c.starved then none
  else some c.wake

end Child
end BoardBench.Sim
