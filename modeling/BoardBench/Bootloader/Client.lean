import BoardBench.Bootloader.Command
import BoardBench.Image
import BoardBench.Session
import BoardBench.Text.Trim

/-!
# Talking to the bootloader

The bootloader echoes every line it is sent, prints what the command has to say and then its prompt.
A command is taken for done only if its own echo came first, with nothing but blanks before it and
the end of a line right after it, and no error was announced before the prompt.
-/

namespace BoardBench.Bootloader

/-- Where the client believes the bootloader to be. -/
inductive State where
  /-- Counting down to the normal boot. -/
  | awaitingInterrupt
  | promptReady
  /-- A command is running. -/
  | busy
  /-- The system was started. -/
  | exited
  deriving DecidableEq, Repr

/-- A client of the bootloader on a session. -/
structure Client (δ : Type) where
  session : Session δ
  state : State

def prompt : Bytes := Bytes.ofText "(plo)% "

/-- Printed during the countdown. -/
def banner : Bytes := Bytes.ofText "Waiting for input"

/-- Printed before something is erased. -/
def dataLossWarning : String := "Serious risk of data loss, type YES! to proceed."

/-- Sent to have something erased after the warning. -/
def confirmation : String := "YES!"

/-- Printed when something has been erased. -/
def erased : String := "Erased"

/-- Printed before error messages, to colour them red. -/
def errorMarker : Bytes := [0x1B, 0x5B, 0x33, 0x31, 0x6D]

def promptTimeout : Span := .ofSeconds 8
def echoTimeout : Span := .ofSeconds 4
def eraseConfirmTimeout : Span := .ofSeconds 8
def appTimeout : Span := .ofSeconds 30
def aliasTimeout : Span := .ofSeconds 4
def bannerTimeout : Span := .ofSeconds 5

/-- Numbers in reports stay below this. -/
def numberBound : Nat := 0x100000000

/-- The report on one block of a format: `block`, its index, a slash, the number of blocks, and
something that is no digit, so that the number is complete. -/
def blockReport (δ : Type) [Bench δ] : Pattern := .regex (Bench.libraries δ).regexes.blockReport

namespace Client

variable {δ : Type}

/-- A client of a bootloader that is about to count down. -/
def ofSession (s : Session δ) : Client δ := ⟨s, .awaitingInterrupt⟩

/-- An action on the session alone. -/
def onSession {α : Type} (x : Act (Session δ) α) : Act (Client δ) α :=
  Act.zoom (·.session) (fun s c => { c with session := s }) x

/-- Notes where the bootloader is. -/
def enter (state : State) : Act (Client δ) Unit := Act.change fun c => { c with state := state }

/-- An action on the device alone. -/
def onDevice {α : Type} (x : Act δ α) : Act (Client δ) α := onSession (Session.onDevice x)

/-- An action on a bootloader that is about to count down on the session's board. -/
def within {α : Type} (x : Act (Client δ) α) : Act (Session δ) α := fun s =>
  ((x (ofSession s)).1, (x (ofSession s)).2.session)

variable [Bench δ] [Transport δ]

def expect (ps : List Pattern) (timeout : Span) : Act (Client δ) Match :=
  onSession (Session.expect ps timeout)

def sendLine (line : String) : Act (Client δ) Unit :=
  onSession (Session.sendLine (Bytes.ofText line))

def note (text : String) : Act (Client δ) Unit := onSession (Session.note .info text)

/-- Waits for the prompt. -/
def waitPrompt (timeout : Span) : Act (Client δ) Match := do
  let m ← expect [.literal prompt] timeout
  enter .promptReady
  return m

/-- Waits for the prompt; with `check`, an error announced before it is an error. -/
def assertPrompt (timeout : Span) (check : Bool) : Act (Client δ) Match := do
  let m ← waitPrompt timeout
  if check && Bytes.contains m.before errorMarker then
    Act.fail (.device "" "plo reported an error" m.beforeText)
  else return m

/-- Stops the countdown and waits for the first prompt. -/
def enterBootloader : Act (Client δ) Unit := do
  let _ ← expect [.literal banner] bannerTimeout
  sendLine ""
  let _ ← waitPrompt promptTimeout
  note ("Entered plo on " ++ Transport.name (← Act.state).session.device)

/-- Sends a line and waits for its echo, which must be exact. -/
def sendCommand (cmd : String) : Act (Client δ) Unit := do
  if (← Act.state).state = .exited then
    Act.fail (.unsupported ("cannot send `" ++ cmd ++ "`: plo already handed over to the OS"))
  enter .busy
  sendLine cmd
  let echo ← (expect [.text cmd] echoTimeout).mapError (·.withCommand cmd)
  unless echo.before.all Bytes.isBlank do
    Act.fail (.device cmd "unexpected output before command echo" echo.beforeText)
  let lineEnd ← (expect [.literal [0x0D], .literal [0x0A]] echoTimeout).mapError (·.withCommand cmd)
  unless lineEnd.before.isEmpty do
    Act.fail (.device cmd "command echo continues past the command" lineEnd.beforeText)

/-- Sends a line and waits for a prompt without an error before it. -/
def runCommand (cmd : String) (timeout : Span) : Act (Client δ) Match := do
  sendCommand cmd
  (assertPrompt timeout true).mapError (·.withCommand cmd)

/-- Runs a command. -/
def run (cmd : Command) (timeout : Span) : Act (Client δ) Match := runCommand cmd.render timeout

/-- Waits for `marker`; a prompt in its place means that the bootloader refused. -/
def expectOrRefused (marker : String) (timeout : Span) (cmd : String) : Act (Client δ) Unit := do
  let m ← (expect [.text marker, .literal prompt] timeout).mapError (·.withCommand cmd)
  if m.index = 1 then
    enter .promptReady
    Act.fail (.device cmd ("prompt returned before " ++ Text.quoted marker) m.beforeText)

/-- Erases a part of a device. The confirmation is sent only when the warning has been read. -/
def erase (device : String) (offset size : Nat) (timeout : Span) : Act (Client δ) Unit := do
  let cmd := (Command.erase device offset size).render
  note ("Erasing " ++ device ++ " " ++ Text.hex0x offset ++ "+" ++ Text.hex0x size)
  sendCommand cmd
  expectOrRefused dataLossWarning eraseConfirmTimeout cmd
  (sendCommand confirmation).mapError (·.withCommand cmd)
  expectOrRefused erased timeout cmd
  let _ ← (assertPrompt promptTimeout true).mapError (·.withCommand cmd)

/-- The command that formats the partition of an image. -/
def formatCommand (spec : JffsImage) : Command :=
  let g := spec.cleanmarker
  .format spec.flashDeviceId true g.startBlock g.blockCount g.blockSize g.markerSize

/-- Waits for the report on block `expected`. -/
def expectBlock (spec : JffsImage) (cmd : String) (expected : Nat) :
    Act (Client δ) Unit := do
  let missing : Error → Error
    | .streamTimeout _ _ before | .endOfStream _ before =>
      .device cmd ("missing progress for block " ++ toString expected) before
    | e => e
  let m ← (expect [blockReport δ] spec.perBlockTimeout).mapError missing
  let count := spec.cleanmarker.blockCount
  let number (name : String) : Option Nat := (m.group? name).bind (Text.decimal? numberBound)
  if number "count" != some count then
    Act.fail (.device cmd ("plo formats " ++ (m.group? "count").getD "?" ++ " blocks, expected " ++
      toString count) m.beforeText)
  if number "index" != some expected then
    Act.fail (.device cmd ("expected progress for block " ++ toString expected ++ ", got " ++
      Text.trimEnd m.matchedText) m.beforeText)

/-- Waits for the reports on the blocks from `expected` on, of which `left` are to come, and passes
each on. -/
def expectBlocks (spec : JffsImage) (cmd : String) (progress : Nat → Nat → δ → δ) :
    Nat → Nat → Act (Client δ) Unit
  | 0, _ => return ()
  | left + 1, expected => do
    expectBlock spec cmd expected
    onSession (Session.touch (progress (expected + 1) spec.cleanmarker.blockCount))
    expectBlocks spec cmd progress left (expected + 1)

/-- Formats the partition of an image; `progress` is told of every block in order. -/
def formatFilesystem (spec : JffsImage) (progress : Nat → Nat → δ → δ) : Act (Client δ) Unit := do
  let cmd := (formatCommand spec).render
  let count := spec.cleanmarker.blockCount
  note ("Formatting " ++ toString count ++ " blocks on " ++ spec.flashDeviceId)
  sendCommand cmd
  expectBlocks spec cmd progress count 0
  let _ ← (assertPrompt promptTimeout true).mapError (·.withCommand cmd)

/-- Registers an application to be loaded. -/
def loadApp (device file imap dmap : String) (executable : Bool) : Act (Client δ) Unit := do
  let _ ← run (.app device file imap dmap executable) appTimeout

/-- Moves data between two devices of the bootloader. -/
def copy (src srcObj dst dstObj : String) (srcSize dstSize : Option Nat) (timeout : Span) :
    Act (Client δ) Unit := do
  let _ ← run (.copy src srcObj srcSize dst dstObj dstSize) timeout

/-- Copies a file into memory. -/
def copyFileToMemory (src file dst : String) (offset size : Nat) (timeout : Span) :
    Act (Client δ) Unit :=
  copy src file dst (Text.hex0x offset) none (some size) timeout

/-- Names a part of memory. -/
def nameRange (name : String) (offset size : Nat) : Act (Client δ) Unit := do
  let _ ← run (.nameRange name offset size) aliasTimeout

/-- Starts the system. -/
def exitToOs : Act (Client δ) Unit := do
  note "Leaving plo"
  sendLine Command.go.render
  enter .exited

end Client
end BoardBench.Bootloader
