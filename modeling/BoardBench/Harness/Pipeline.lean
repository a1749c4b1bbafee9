import BoardBench.Harness.Test
import BoardBench.Target

/-!
# Stages of a test

What a test asks for becomes a list of stages: the board is prepared, the body runs, and what the
body left on is put back. The stages are run in order up to the first that fails or stops the test.
A failure is one of the test, unless it is fatal.
-/

namespace BoardBench

/-- One step of a test. -/
inductive Stage where
  | reboot (options : RebootOptions)
  /-- Enter the bootloader, load applications and start the system. -/
  | bootloader (apps : List AppSpec)
  /-- Wait for the shell's prompt, after an empty line if it is to be poked. -/
  | shell (prompt : String) (timeout : Span) (poke : Bool)
  /-- Have the shell silence the kernel, or let it speak again. -/
  | kernelLog (command prompt : String) (enable : Bool)
  | body
  /-- Wait for the prompt that follows the body's command. -/
  | closingPrompt (prompt : String)
  deriving DecidableEq, Repr

namespace Stage

def name : Stage → String
  | reboot _ => "reboot"
  | bootloader _ => "bootloader"
  | shell .. => "shell"
  | kernelLog _ _ false => "kernel-log-off"
  | kernelLog _ _ true => "kernel-log-on"
  | body => "body"
  | closingPrompt _ => "closing-prompt"

/-- Where a test broke that broke in this stage. -/
def failureStage : Stage → FailureStage
  | reboot _ | bootloader _ | shell .. | kernelLog _ _ false => .flash
  | kernelLog _ _ true | body | closingPrompt _ => .run

variable {δ : Type} [Bench δ] [Transport δ]

/-- Runs the bootloader stage. -/
def passBootloader (loader : Option (Loader δ)) (apps : List AppSpec) : Act (Session δ) Unit :=
  Bootloader.Client.within do
    Bootloader.Client.enterBootloader
    unless apps.isEmpty do
      match loader with
      | some loader => loader.load apps
      | none => Act.fail (.composition "no application loader on this target")
    Bootloader.Client.exitToOs

/-- Runs the body; the test goes on if it left the verdict at OK and no part failed. -/
def runBody (b : Body δ) (timeout : Span) : Act (Trial δ) Bool := do
  b.run timeout
  Trial.judge Verdict.foldParts
  return (← Act.state).verdict.status = .ok

/-- Runs a stage, and says whether the test goes on after it. -/
def run (target : Target δ) (b : Body δ) (timeout : Span) : Stage → Act (Trial δ) Bool
  | reboot options => do
    Trial.onSession (target.reboot options)
    return true
  | bootloader apps => do
    Trial.onSession (passBootloader target.loader apps)
    return true
  | shell prompt bootup poke => Trial.onSession do
    if poke then Session.sendLine []
    let _ ← Session.expectExact (Bytes.ofText prompt) bootup
    return true
  | kernelLog command prompt _ => Trial.onSession do
    Session.sendLine (Bytes.ofText command)
    let _ ← (Session.expectExact (Bytes.ofText prompt) timeout).mapError (·.withCommand command)
    return true
  | body => runBody b timeout
  | closingPrompt prompt => Trial.onSession do
    let _ ← (Session.expectExact (Bytes.ofText prompt) timeout).mapError (Body.inContext b.command)
    return true

end Stage

namespace Test

variable {δ : Type}

/-- The prompt that the test waits for, if it waits for one. -/
def prompt? (t : Test δ) (config : TargetConfig) : Option String :=
  t.shell.map fun s => s.prompt.getD config.shellPrompt

/-- The shell stage of a test. -/
def shellStages (t : Test δ) (config : TargetConfig) : List Stage :=
  match t.shell with
  | none => []
  | some s =>
    [.shell (s.prompt.getD config.shellPrompt) (s.bootupTimeout.getD config.bootupTimeout)
      (!t.shouldReboot && t.bootloader.isNone)]

/-- The stages that silence the kernel and let it speak again. -/
def kernelLogStages (t : Test δ) (config : TargetConfig) : Except Error (List Stage × List Stage) :=
  if !t.suppressKernelLog then .ok ([], [])
  else
    match t.prompt? config, config.kernelLogOff, config.kernelLogOn with
    | none, _, _ =>
      .error (.composition ("test " ++ t.name ++ " suppresses kernel logs without entering the shell"))
    | some prompt, some off, some on =>
      .ok ([.kernelLog off prompt false], [.kernelLog on prompt true])
    | _, _, _ => .ok ([], [])

/-- The bootloader stage of a test. -/
def bootloaderStages (t : Test δ) (target : Target δ) : Except Error (List Stage) :=
  match t.bootloader with
  | none => .ok []
  | some apps =>
    if !apps.isEmpty && !target.canLoadApps then
      .error (.composition ("test " ++ t.name ++ " preloads applications but target " ++
        target.config.name ++ " has no RAM window or phoenixd"))
    else .ok [.bootloader apps]

/-- The stages of a test on a target, if they fit together. -/
def stages (t : Test δ) (target : Target δ) : Except Error (List Stage) := do
  let boot ← t.bootloaderStages target
  let (silence, speak) ← t.kernelLogStages target.config
  return (if t.shouldReboot then [.reboot .soft] else []) ++ boot ++ t.shellStages target.config ++
    silence ++ [.body] ++ (t.prompt? target.config).toList.map .closingPrompt ++ speak

end Test

namespace Stage

variable {δ : Type} [Bench δ] [Transport δ]

/-- Runs stages in order. Fails only with a fatal error. -/
def runAll (target : Target δ) (b : Body δ) (timeout : Span) : List Stage → Act (Trial δ) Unit
  | [] => return ()
  | stage :: rest => fun t =>
    match stage.run target b timeout t with
    | (.ok true, t) => runAll target b timeout rest t
    | (.ok false, t) => (.ok (), t)
    | (.error e, t) =>
      if e.isFatal then (.error e, t)
      else
        (do
          Trial.onSession (Session.note .info ("Stage " ++ stage.name ++ " failed: " ++ e.message))
          Trial.judge (Verdict.fail stage.failureStage e.message) : Act (Trial δ) Unit) t

/-- Runs stages on a session; the verdict begins as passed. -/
def drive (target : Target δ) (b : Body δ) (timeout : Span) (stages : List Stage) :
    Act (Session δ) Verdict := fun s =>
  let (r, t) := runAll target b timeout stages ⟨s, {}⟩
  (r.map fun _ => t.verdict, t.session)

end Stage
end BoardBench
