import BoardBench.Scenario.Answer
import BoardBench.Scenario.Plans

/-!
# Steps of scenarios

What is done on a console, to a bootloader and to a target, step by step. Each step is answered with
what came of it, and all are taken whatever came of those before.
-/

namespace BoardBench.Scenario

open Sim Bootloader

/-- The answer to something that is not understood. -/
def badInput : Json := .obj [("error", .str "BadInput"), ("message", .str "unknown request")]

/-- What a console keeps besides its session: the record of its log while there is no sink. -/
structure Console where
  session : Session World
  record : List LogEntry := []
  /-- Whether answers show the time. -/
  timed : Bool := true
  /-- How many bytes had been written at the last answer. -/
  answered : Nat := 0

/-- Runs an action on a session and encodes what comes of it. -/
def act {α : Type} (enc : α → Json) (x : Act (Session World) α) (c : Console) : Json × Console :=
  let (r, s) := x c.session
  (Answer.result enc r, { c with session := s })

/-- A step on a session; none if there is no such step. -/
def sessionStep (j : Json) (c : Console) : Option (Json × Console) :=
  match textAt j "do" with
  | "send" => some (act Answer.done (Session.send (bytesAt j "data")) c)
  | "send_line" => some (act Answer.done (Session.sendLine (Bytes.ofText (textAt j "data"))) c)
  | "expect" =>
    match patternsOf j "patterns" with
    | .error e => some (Answer.error e, c)
    | .ok ps => some (act (Answer.found · ((j.itemsAt "ask").map textOf)) (Session.expect ps (stepTimeout j)) c)
  | "expect_exact" =>
    some (act (Answer.found · []) (Session.expectExact (Bytes.ofText (textAt j "text")) (stepTimeout j)) c)
  | "read_raw" => some (act Answer.bytes (Session.readRaw (j.natAt "max") (stepTimeout j)) c)
  | "clear" => some (act Answer.done Session.clearBuffer c)
  | "reopen" => some (act Answer.done Session.reopen c)
  | "close" => some (act Answer.done Session.close c)
  | "name" => some (.obj [("ok", .str (Transport.name c.session.device))], c)
  | "buffered" => some (.obj [("ok", Answer.bytes c.session.buffer)], c)
  | "emit" => some (act Answer.done (Session.touch (printItems (emissionsAt j "items"))) c)
  | "wait" => some (act Answer.done (Session.sleep (stepTimeout j)) c)
  | "set_log" =>
    let record := (c.session.log.map (·.taken)).getD c.record
    let sink := if !j.boolAt "on" true then none
      else if j.boolAt "fail" false then some (LogSink.broken record) else some (LogSink.working record)
    some (act Answer.done (Session.setLog sink) { c with record })
  | _ => none

/-- The answer of a step: its result and how things stand after it. -/
def full (c : Console) (r : Json) (more : List (String × Json)) : Json :=
  .obj ([("r", r), ("buf", Answer.bytes c.session.buffer),
      ("w", Answer.bytes (c.session.device.board.tally.written.drop c.answered))] ++
    (if c.timed then [("t_us", .nat (c.session.now / 1000))] else []) ++ more)

/-- A way to answer a step. -/
abbrev Answering := Console → Json → List (String × Json) → Json

/-- The console once a step has been answered. -/
def settle (c : Console) : Console :=
  { c with answered := c.session.device.board.tally.written.length }

/-- Runs an operation of a client and encodes what comes of it. -/
def clientAct {α : Type} (enc : α → Json) (x : Act (Client World) α) (state : State) (c : Console) :
    Json × State × Console :=
  let (r, client) := x ⟨c.session, state⟩
  (Answer.result enc r, client.state, { c with session := client.session })

/-- A step on a client. -/
def clientStep (j : Json) (state : State) (c : Console) : Json × State × Console :=
  let timeout := stepTimeout j
  let run (x : Act (Client World) Unit) := clientAct Answer.done x state c
  let find (x : Act (Client World) Match) := clientAct (Answer.found · []) x state c
  match textAt j "do" with
  | "enter_bootloader" => run Client.enterBootloader
  | "wait_prompt" => find (Client.waitPrompt timeout)
  | "assert_prompt" => find (Client.assertPrompt timeout (j.boolAt "check" true))
  | "send_command" => run (Client.sendCommand (textAt j "cmd"))
  | "run_command" => find (Client.runCommand (textAt j "cmd") timeout)
  | "run" =>
    match commandOf ((j.member? "command").getD .null) with
    | some command => find (Client.run command timeout)
    | none => (badInput, state, c)
  | "erase" => run (Client.erase (textAt j "device") (j.natAt "offset") (j.natAt "size") timeout)
  | "format" =>
    let before := c.session.device.events.length
    let progress (done total : Nat) := World.record (.progress "format" done total)
    let (r, state, c) := run (Client.formatFilesystem (jffsOf (j.recordAt "spec")) progress)
    let new := (c.session.device.events.take (c.session.device.events.length - before)).reverse
    let steps := new.filterMap fun (e, _) => match e with
      | .progress _ done total => some (Json.arr [.nat done, .nat total])
      | _ => none
    (match r with
      | .obj members => (.obj (members ++ [("progress", .arr steps)]), state, c)
      | r => (r, state, c))
  | "load_app" =>
    run (Client.loadApp (textAt j "device") (textAt j "file") (textAt j "imap") (textAt j "dmap")
      (j.boolAt "executable" true))
  | "copy" =>
    run (Client.copy (textAt j "src") (textAt j "src_obj") (textAt j "dst") (textAt j "dst_obj")
      (j.natAt? "src_size") (j.natAt? "dst_size") timeout)
  | "copy_file" =>
    run (Client.copyFileToMemory (textAt j "src") (textAt j "file") (textAt j "dst") (j.natAt "offset")
      (j.natAt "size") timeout)
  | "alias" => run (Client.nameRange (textAt j "name") (j.natAt "offset") (j.natAt "size"))
  | "exit_to_os" => run Client.exitToOs
  | _ =>
    match sessionStep j c with
    | some (r, c) => (r, state, c)
    | none => (badInput, state, c)

/-- Steps on a client, each with its answer. -/
def clientSteps (answer : Answering) : List Json → State → Console → List Json × Console
  | [], _, c => ([], c)
  | j :: rest, state, c =>
    let (r, state, c) := clientStep j state c
    let first := answer c r [("state", .str (Answer.state state))]
    let (answers, c) := clientSteps answer rest state (settle c)
    (first :: answers, c)

/-- Steps on a session, each with its answer. -/
def sessionSteps (answer : Answering) : List Json → Console → List Json × Console
  | [], c => ([], c)
  | j :: rest, c =>
    let (r, c) :=
      if textAt j "do" == "plo" then
        let (answers, c) := clientSteps answer (j.itemsAt "steps") .awaitingInterrupt c
        (.obj [("plo", .arr answers)], c)
      else (sessionStep j c).getD (badInput, c)
    let first := answer c r []
    let (answers, c) := sessionSteps answer rest (settle c)
    (first :: answers, c)
/-- The answer of a step without how things stand after it. -/
def bare (_ : Console) (r : Json) (more : List (String × Json)) : Json :=
  if more.isEmpty then r else .obj ([("r", r)] ++ more)

/-- Steps on a target. -/
def targetSteps (target : Target World) : List Json → Console → List Json
  | [], _ => []
  | j :: rest, c =>
    let (answer, c) := match textAt j "do" with
      | "reboot" => act Answer.done (target.reboot .soft) c
      | "flash" => act Answer.done (target.flash fun _ _ _ w => w) c
      | "can_load" => (Json.obj [("ok", .bool target.canLoadApps)], c)
      | "target_close" => act Answer.done Session.close c
      | _ =>
        let (answers, c) := sessionSteps bare [j] c
        (answers.headD .null, c)
    answer :: targetSteps target rest c

end BoardBench.Scenario
