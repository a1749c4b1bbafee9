import BoardBench.Scenario.Steps

/-!
# Steps on helpers

What is done with a helper of a scenario while it runs.
-/

namespace BoardBench.Scenario

open Sim

/-- A step on a helper. -/
def helperStep (j : Json) : Act (Tended World) Json :=
  match textAt j "do" with
  | "kill" => do return Answer.result Answer.done (← Helper.kill.attempt)
  | "output" => do return Answer.result (.str ·) (← Helper.output.attempt)
  | "alive" => do return .obj [("ok", .bool (← Act.state).helper.running)]
  | "forced_kills" => do return .obj [("ok", .nat (← Act.state).helper.forcedKills)]
  | "wait_exit" => do
    return Answer.result Answer.exitStatus?
      (← (Helper.waitExit (spanAt j "timeout" (.ofMillis 2000))).attempt)
  | _ => return badInput

/-- Steps on a helper, each with its answer. -/
def helperSteps : List Json → Act (Tended World) (List Json)
  | [] => return []
  | j :: rest => do
    let answer ← helperStep j
    return answer :: (← helperSteps rest)

end BoardBench.Scenario
