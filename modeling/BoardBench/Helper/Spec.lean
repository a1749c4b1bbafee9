import BoardBench.Span

/-!
# Descriptions of helpers

A helper is a program that runs next to the bench while it is needed. It is ready when it has printed
its marker.
-/

namespace BoardBench

/-- How to start a helper, and how to tell that it is ready. -/
structure HelperSpec where
  program : String
  args : List String := []
  cwd : Option String := none
  /-- Printed when the helper is ready. -/
  marker : String
  readyTimeout : Span := .ofSeconds 10
  /-- A file that must be there before the helper is started. -/
  waitForPath : Option String := none
  pathTimeout : Span := .ofSeconds 10
  /-- How long the helper has to stop when asked. -/
  stopTimeout : Span := .ofSeconds 5
  deriving DecidableEq, Repr

namespace HelperSpec

/-- The server that hands files to the bootloader over a device. -/
def fileServer (port : String) (baud : Nat) (dir : String) : HelperSpec where
  program := "phoenixd"
  args := ["-p", port, "-b", toString baud, "-s", "."]
  cwd := some dir
  marker := "Starting message dispatcher on [" ++ port ++ "]"
  waitForPath := some port

/-- The driver of a debug probe. -/
def debugProbe (args : List String) : HelperSpec where
  program := "openocd"
  args := args
  marker := "Listening on port 3333 for gdb connections"

end HelperSpec
end BoardBench
