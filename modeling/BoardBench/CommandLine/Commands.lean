import BoardBench.Adapter.Discovery
import BoardBench.CommandLine.Environment
import BoardBench.Config.Load
import BoardBench.Json.Printer
import BoardBench.Report.Screen
import BoardBench.Target.Programming

/-!
# Commands

What the commands of the program do on a bench. A command shows what happens on the screen and may print
something for other programs; a failure ends it, is shown, and decides the exit status. Whatever becomes
of a run, the console is closed after it and the traffic log is written.
-/

namespace BoardBench.CommandLine

/-- A command on a bench: it may fail, but what was done to the bench stays done. -/
abbrev Command (δ : Type) := ExceptT Failure (StateM δ)

namespace Command

variable {δ α : Type}

/-- An action on the bench. -/
def ofAct (x : Act δ α) : Command δ α := ExceptT.mk fun d =>
  match x d with
  | (.ok a, d') => (.ok a, d')
  | (.error e, d') => (.error (Failure.ofError e), d')

/-- A value, or failure with what the command line found. -/
def ofExcept (r : Except CommandFailure α) : Command δ α :=
  match r with
  | .ok a => pure a
  | .error f => throw ⟨.command f, []⟩

/-- A command of which a failure says what was being done. -/
def within (context : String) (x : Command δ α) : Command δ α := ExceptT.mk fun d =>
  match x.run d with
  | (.ok a, d') => (.ok a, d')
  | (.error f, d') => (.error (f.within context), d')

variable [Bench δ]

/-- Writes a line into the log. -/
def note (level : Level) (text : String) : Command δ Unit := modify (Bench.note level text)

variable [Operator δ]

/-- Shows a text. -/
def say (text : String) : Command δ Unit :=
  modify fun d => if text.isEmpty then d else Operator.print text d

end Command

section

variable {δ : Type} [Bench δ] [Transport δ] [Processes δ] [Files δ] [SerialLines δ] [Operator δ]
  [Consoles δ]

/-- The adapter of a board when none was named: the only one that there is. -/
def selectPort (nonInteractive : Bool) : Command δ String := do
  match Adapter.discover (← get) with
  | [] => throw (.usage "no serial ports found; pass --port")
  | [adapter] =>
    Command.note .info ("Auto-selected port: " ++ adapter.name)
    return adapter.name
  | _ =>
    throw (.usage (if nonInteractive then "several serial ports found; pass --port in non-interactive mode"
      else "interactive selection needs a terminal; pass --port"))

/-- The port of a target: the one that was chosen, else the one of its entry, else one that is found. -/
def portFor (choices : Choices) (entry : TargetEntry) : Command δ (Option String) := do
  if entry.isEmulated then return none
  else
    match choices.port.or entry.port with
    | some port => return some port
    | none => some <$> selectPort choices.nonInteractive

/-- A console that was opened for a command. -/
structure Workplace (δ : Type) where
  target : Target δ
  /-- Where a copy of the traffic goes. -/
  logFile : Option String

namespace Workplace

/-- A session on the console. -/
def session (w : Workplace δ) (d : δ) : Session δ :=
  { Session.ofDevice d with log := w.logFile.map fun _ => .working [] }

/-- Bytes that a sink took. -/
def traffic (log : LogSink) : Bytes :=
  log.entries.flatMap fun
    | .data bytes => bytes
    | .flush => []

/-- Closes the console after a session and writes the traffic log. -/
def finish (w : Workplace δ) (s : Session δ) : Command δ Unit := do
  let (closed, s) := Session.close s
  set s.device
  match closed with
  | .ok _ => pure ()
  | .error e => Command.note .warn ("Failed to close " ++ w.target.config.name ++ ": " ++ e.message)
  match w.logFile, s.log with
  | some path, some log => modify fun d => (Files.writeFile path (traffic log) d).2
  | _, _ => pure ()

end Workplace

/-- Opens the console of the target that was chosen, with the way to reboot it that the chosen host
has. -/
def openTarget (choices : Choices) (config : Config) : Command δ (Workplace δ) := do
  let (name, entry) ← Command.ofExcept (config.target choices.target)
  let port ← portFor choices entry
  let described ← Command.ofExcept (entry.resolve name port)
  let host ← Command.ofExcept (config.host choices.host described.isEmulated)
  let host := { host with interactive := !choices.nonInteractive }
  let rebooter ← Command.ofAct (host.rebooterFor described)
  let target ← Command.within ("Failed to open target " ++ name)
    (Command.ofAct (Target.open described rebooter))
  match choices.sessionLog with
  | none => return ⟨target, none⟩
  | some path =>
    let (made, d) := Files.writeFile path [] (← get)
    match made with
    | .ok _ =>
      set d
      return ⟨target, some path⟩
    | .error f =>
      set (Session.ofDevice d).drop.device
      throw (.usage ("cannot create session log " ++ path ++ ": " ++ f.text))

/-- Shows a run on the screen, and stops it when the operator asks for it. -/
def screenWatcher (quiet : Bool) : Watcher δ where
  tell report d :=
    let text := ScreenStyle.text ⟨quiet, false, false⟩ report
    if text.isEmpty then d else Operator.print text d
  interrupted d := (decide (0 < Operator.stopRequests d), d)

/-- Carries out a plan on an open console, and closes it. -/
def carryOut (w : Workplace δ) (plan : RunPlan) (tests : List (Test δ)) (quiet : Bool) :
    Command δ Summary := do
  let (result, run) :=
    Run.execute w.target plan (screenWatcher quiet) tests { session := w.session (← get) }
  w.finish run.session
  match result with
  | .ok summary => return summary
  | .error e => throw (Failure.ofError e)

/-- Programs the board if it has an image, then runs its tests. -/
def runTests (choices : Choices) (own : Option String) (noFlash noTest nightly : Bool)
    (only : List String) : Command δ Unit := do
  let config ← Command.ofExcept (Config.load choices.configFile own (← get))
  let (name, _) ← Command.ofExcept (config.target choices.target)
  let tests ← if noTest then pure [] else Command.ofExcept (config.testsFor name only)
  if !noTest && tests.isEmpty then
    Command.note .warn ("No tests configured for " ++ name)
  let w ← openTarget choices config
  let hasImage := w.target.config.flashImage.isSome
  if !noFlash && !hasImage then
    Command.note .info (name ++ " has no flash image, skipping flashing")
  let summary ← carryOut w { nightly, flash := !noFlash && hasImage, test := !noTest } tests choices.quiet
  if !summary.isSuccess then
    throw ⟨.command (.testsFailed summary.failed summary.total), []⟩

/-- Programs the board. -/
def flashBoard (choices : Choices) (own : Option String) : Command δ Unit := do
  let config ← Command.ofExcept (Config.load choices.configFile own (← get))
  let w ← openTarget choices config
  if w.target.config.flashImage.isNone then
    w.finish (w.session (← get))
    throw (.config ("target " ++ w.target.config.name ++ " has no flash_image"))
  let _ ← carryOut w { flash := true, test := false } [] choices.quiet
  if !choices.quiet then Command.say "\n✓ Flashing completed\n"

/-- Lists the adapters: on the screen, or as JSON for other programs. -/
def listAdapters (json : Bool) : Command δ String := do
  let adapters := Adapter.discover (← get)
  if json then return Json.pretty "" (.arr (adapters.map Adapter.toJson)) ++ "\n"
  Command.say "Serial ports\n"
  if adapters.isEmpty then Command.say "  none found\n"
  for adapter in adapters do
    Command.say ("  • " ++ adapter.label ++ "\n")
  return ""

/-- Does what was asked for; gives what is printed for other programs. -/
def Request.perform (choices : Choices) (own : Option String) : Request → Command δ String
  | .run noFlash noTest nightly only => do
    runTests choices own noFlash noTest nightly only
    return ""
  | .flash => do
    flashBoard choices own
    return ""
  | .listPorts json => listAdapters json
  | .completions shell => return (Bench.libraries δ).commandLines.script shell program

/-- What becomes of a call. -/
structure Outcome where
  /-- Printed for other programs. -/
  printed : String
  /-- The exit status. -/
  status : Nat
  /-- What of the log is shown. -/
  log : LogFilter

/-- The exit status of a misuse. -/
def misuseStatus : Nat := 2

/-- The exit status after the operator has asked twice to stop. -/
def abortStatus : Nat := 130

/-- Shown when the operator first asks to stop. -/
def stopNotice : String := "\n⚠ stopping after the current test (Ctrl-C again to abort)\n"

/-- Carries out a call. -/
def carryOutCall (e : Environment) (choices : Choices) (request : Request) (d : δ) : Outcome × δ :=
  let (log, warnings) := e.logFilter (Bench.libraries δ).regexes choices
  let (result, d) := (Command.say warnings *> request.perform choices e.ownConfig?).run d
  let status (n : Nat) (d : δ) : Nat := if 2 ≤ Operator.stopRequests d then abortStatus else n
  match result with
  | .ok printed => (⟨printed, status 0 d, log⟩, d)
  | .error f =>
    let d := Operator.print ("Error: " ++ f.text ++ "\n") d
    (⟨"", status f.exitCode d, log⟩, d)

/-- Calls the program with words, in an environment. -/
def call (e : Environment) (words : List String) (d : δ) : Outcome × δ :=
  let answer (printed : String) : Outcome := ⟨printed, 0, .atLeast 0⟩
  match (Bench.libraries δ).commandLines.read program e.get? words with
  | .error misuse => (⟨"", misuseStatus, .atLeast 0⟩, Operator.print misuse d)
  | .ok (.text text) => (answer text, d)
  | .ok (.call command settings) =>
    match settings.request? command with
    | some request => carryOutCall e settings.choices request d
    | none => (⟨"", misuseStatus, .atLeast 0⟩, d)

end
end BoardBench.CommandLine
