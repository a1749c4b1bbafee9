import BoardBench.Report.LogFilter
import BoardBench.Sim.World

/-!
# Transcripts

What a person has seen on the screen of a simulated bench: the texts and, as far as a filter lets them
through, the lines of the log.
-/

namespace BoardBench.Sim

/-- What is seen of something that got to the screen. -/
def Shown.seen (log : LogFilter) (source : String) : Shown → String
  | .text s => s
  | .flush => ""
  | .note level s => if log.admits source level s then level.line s else ""

/-- All that was seen on the screen. -/
def World.transcript (log : LogFilter) (source : String) (w : World) : String :=
  String.join (w.screen.reverse.map (Shown.seen log source))

end BoardBench.Sim
