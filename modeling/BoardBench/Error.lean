import BoardBench.Fault
import BoardBench.Span
import BoardBench.Text.Quoted

/-!
# Errors

The ways in which work on a board fails, one constructor a cause. `message` words them, `isFatal`
says which end a whole run. An error of a stream becomes one of the device once the command that was
being run is known (`withCommand`); anything that goes wrong while flashing is a flash error
(`intoFlash`).
-/

namespace BoardBench

/-- Why something failed. -/
inductive Error where
  /-- A system operation failed. -/
  | io (fault : Fault)
  /-- The serial line failed. -/
  | serial (reason : String)
  /-- A pattern is not a regular expression. -/
  | pattern (reason : String)
  /-- None of the patterns showed up in time. -/
  | streamTimeout (patterns : String) (timeout : Span) (before : String)
  /-- The stream ended while patterns were awaited. -/
  | endOfStream (patterns before : String)
  /-- The device failed a command, or answered something unexpected. -/
  | device (command reason output : String)
  /-- Programming the board failed. -/
  | flash (reason output : String)
  /-- The board could not be rebooted. -/
  | reboot (reason : String)
  /-- A helper program failed. -/
  | service (program reason output : String)
  /-- The stages of a test do not fit together. -/
  | composition (reason : String)
  /-- Something this target or transport cannot do. -/
  | unsupported (reason : String)
  /-- The configuration is wrong. -/
  | config (reason : String)
  /-- The run was asked to stop. -/
  | interrupted
  deriving DecidableEq, Repr

namespace Error

/-- Captured output, on lines of its own, if there is any. -/
def outputText (output : String) : String :=
  if output.isEmpty then "" else "\n--- captured output ---\n" ++ output

/-- The error in words. -/
def message : Error → String
  | io fault => "I/O error: " ++ fault.text
  | serial reason => "Serial port error: " ++ reason
  | pattern reason => "Invalid pattern: " ++ reason
  | streamTimeout patterns timeout before =>
    "Timeout after " ++ timeout.text ++ " waiting for " ++ patterns ++ "; received: " ++
      Text.quoted before
  | endOfStream patterns before =>
    "Transport closed while waiting for " ++ patterns ++ "; received: " ++ Text.quoted before
  | device command reason output =>
    "Device error on `" ++ command ++ "`: " ++ reason ++ "; output: " ++ Text.quoted output
  | flash reason output => "Flash error: " ++ reason ++ outputText output
  | reboot reason => "Reboot error: " ++ reason
  | service program reason output =>
    "Background service `" ++ program ++ "` failed: " ++ reason ++ outputText output
  | composition reason => "Harness composition error: " ++ reason
  | unsupported reason => "Unsupported: " ++ reason
  | config reason => "Configuration error: " ++ reason
  | interrupted => "Interrupted"

/-- What the error wraps, in the wrapped thing's own words. -/
def source? : Error → Option String
  | io fault => some fault.text
  | serial reason => some reason
  | pattern reason => some reason
  | _ => none

/-- Whether the error ends a whole run and not only one test. -/
def isFatal : Error → Bool
  | reboot _ | interrupted => true
  | _ => false

/-- Names the command that was being run, in an error of the stream or of a device that has none. -/
def withCommand (command : String) : Error → Error
  | streamTimeout patterns timeout before =>
    device command ("timeout after " ++ timeout.text ++ " waiting for " ++ patterns) before
  | endOfStream patterns before =>
    device command ("transport closed while waiting for " ++ patterns) before
  | device "" reason output => device command reason output
  | e => e

/-- Any error as a flash error, with the output captured meanwhile. -/
def intoFlash (output : String) : Error → Error
  | flash reason own => flash reason own
  | e => flash e.message output

end Error
end BoardBench
