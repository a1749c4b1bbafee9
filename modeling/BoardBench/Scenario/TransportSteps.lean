import BoardBench.Scenario.Steps

/-!
# Steps on transports

What is done on the transport of a scenario below any session, and at the far end of an adapter.
-/

namespace BoardBench.Scenario

open Sim

/-- Reads until so many bytes have come. -/
def readExactly (n : Nat) : Nat → Bytes → World → Except Fault Bytes × World
  | 0, acc, w => (.ok acc, w)
  | fuel + 1, acc, w =>
    if n ≤ acc.length then (.ok acc, w)
    else
      match Transport.read (n - acc.length) w with
      | (.ok [], w) => (.error ⟨.unexpectedEof, "failed to fill whole buffer"⟩, w)
      | (.ok bytes, w) => readExactly n fuel (acc ++ bytes) w
      | (.error f, w) => (.error f, w)

def linkPid (w : World) : Option Nat :=
  match w.link with
  | .process c => c.child
  | _ => none

/-- The device file of the adapter that stands in for a board. -/
def adapterPath : String := "tty0"

/-- Steps on a transport. -/
def portSteps : List Json → World → List Json × World
  | [], w => ([], w)
  | j :: rest, w =>
    let run (x : Act World Unit) : Json × World :=
      let (r, w) := x w
      (Answer.result Answer.done r, w)
    let (answer, w) := match textAt j "do" with
      | "read" =>
        let (r, w) := Transport.read (j.natAt "max") w
        (Answer.systemResult Answer.bytes r, w)
      | "read_exactly" =>
        let n := j.natAt "max"
        let (r, w) := readExactly n (n + 1) [] w
        (Answer.systemResult Answer.bytes r, w)
      | "write" => run (Transport.writeAll (bytesAt j "data"))
      | "flush" =>
        let (r, w) := Transport.flush w
        (Answer.systemResult Answer.done r, w)
      | "set_timeout" => run (Transport.setTimeout (stepTimeout j))
      | "timeout" => (.obj [("ok", Answer.span (Transport.timeout w))], w)
      | "clear" => run Transport.clear
      | "close" => run Transport.close
      | "name" => (.obj [("ok", .str (Transport.name w))], w)
      | "alive" => (.obj [("ok", .bool (linkPid w).isSome)], w)
      | "reopen" =>
        let (r, w') := run Transport.reopen
        match w.link with
        | .process _ => (.obj [("r", r), ("new_pid", .bool (linkPid w' != linkPid w))], w')
        | _ => (r, w')
      | "feed" => (.obj [("ok", .bool true)], w.updateWire 0 (·.print (bytesAt j "data")))
      | "received" =>
        let n := j.natAt "max"
        let bytes := ((w.wire? 0).map (·.fromBench)).getD []
        (.obj [("ok", Answer.bytes (bytes.take n))],
          w.updateWire 0 fun wire => { wire with fromBench := wire.fromBench.drop n })
      | "unlink" => (.obj [("ok", .bool true)], { w with files := w.files.remove adapterPath })
      | "link" => (.obj [("ok", .bool true)], { w with files := w.files.put adapterPath (.adapter 0) })
      | _ => (badInput, w)
    let (answers, w) := portSteps rest w
    (answer :: answers, w)

end BoardBench.Scenario
