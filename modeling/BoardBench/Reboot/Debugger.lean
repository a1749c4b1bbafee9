import BoardBench.Helper
import BoardBench.Reboot.Basic

/-!
# Reboots by a debug probe

A helper that resets the core and then ends by itself. Whatever goes wrong with it is an error of the
reboot.
-/

namespace BoardBench.Rebooter

/-- How long the helper has to end once it is ready. -/
def probeExitTimeout : Span := .ofSeconds 10

/-- What the probe is told to do after it is set up. -/
def resetCommands : List String := ["-c", "init", "-c", "reset run", "-c", "shutdown"]

variable {δ : Type} [Bench δ] [Transport δ] [Processes δ] [Files δ]

/-- Reboots a board by a helper that resets its core. -/
def debugger (spec : HelperSpec) (exitTimeout : Span) : Rebooter δ where
  name := "debugger"
  reboot options := do
    if options.flash then
      Act.fail (.reboot "a debugger reset cannot select the flash boot source")
    Session.note .info ("Resetting core through " ++ spec.program)
    Session.clearBuffer
    let reset : Act δ (Option ExitStatus) := Helper.around spec (Helper.waitExit exitTimeout)
    let _ ← (Session.onDevice reset).mapError fun e =>
      .reboot ("debugger reset failed: " ++ e.message)

end BoardBench.Rebooter
