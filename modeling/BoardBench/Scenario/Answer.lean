import BoardBench.Host
import BoardBench.Json.Basic
import BoardBench.Report.Screen
import BoardBench.Sim.World

/-!
# Answers of scenarios

How values are written into the answer to a scenario. Bytes that are a text are written as one, all
others in hexadecimal digits.
-/

namespace BoardBench.Scenario.Answer

open Sim Bootloader

def bytes (bytes : Bytes) : Json :=
  match Text.decode? bytes with
  | some s => .str s
  | none =>
    .obj [("hex", .str (String.join (bytes.map fun b => Text.padZeros 2 (Text.hex b.toNat))))]

def span (s : Span) : Json := .obj [("s", .nat s.seconds), ("ns", .nat s.subsecond)]

def span? (s : Option Span) : Json := (s.map span).getD .null

def errorKind : Error → String
  | .io _ => "Io"
  | .serial _ => "Serial"
  | .pattern _ => "Pattern"
  | .streamTimeout .. => "StreamTimeout"
  | .endOfStream .. => "Eof"
  | .device .. => "Device"
  | .flash .. => "Flash"
  | .reboot _ => "Reboot"
  | .service .. => "BackgroundService"
  | .composition _ => "HarnessComposition"
  | .unsupported _ => "Unsupported"
  | .config _ => "Config"
  | .interrupted => "Interrupted"

def error (e : Error) : Json :=
  .obj [("error", .str (errorKind e)), ("message", .str e.message), ("fatal", .bool e.isFatal)]

def result {α : Type} (enc : α → Json) : Except Error α → Json
  | .ok a => .obj [("ok", enc a)]
  | .error e => error e

def done (_ : Unit) : Json := .bool true

def fault (f : Fault) : Json := .obj [("error", .str f.kind.name), ("message", .str f.text)]

def systemResult {α : Type} (enc : α → Json) : Except Fault α → Json
  | .ok a => .obj [("ok", enc a)]
  | .error f => fault f

def found (m : Match) (ask : List String) : Json :=
  .obj ([("index", .nat m.index), ("groups", .obj (m.groups.map fun (k, v) => (k, .str v))),
      ("before", bytes m.before), ("matched", bytes m.matched),
      ("before_text", .str m.beforeText), ("matched_text", .str m.matchedText)] ++
    if ask.isEmpty then [] else [("asked", .arr (ask.map fun name => Json.ofText? (m.group? name)))])

def tally (b : Board) : Json :=
  .obj [("written", bytes b.tally.written), ("consumed", .nat b.tally.consumed),
    ("reopens", .nat b.tally.reopens), ("clears", .nat b.tally.clears), ("closes", .nat b.tally.closes),
    ("pending_rules", .nat b.pendingRules)]

def geometry (g : Geometry) : Json :=
  .arr [.nat g.startBlock, .nat g.blockCount, .nat g.blockSize, .nat g.markerSize]

def app (a : AppSpec) : Json :=
  .obj [("file", .str a.file), ("name", .str (servedName a.file)), ("source_id", .str a.sourceId),
    ("imap", .str a.imap), ("dmap", .str a.dmap), ("executable", .bool a.executable)]

def image (image : FlashImage) : Json :=
  let spec := image.spec
  .obj ([("file", .str spec.file), ("name", .str (servedName spec.file)),
      ("source_id", .str spec.sourceId), ("memory_bank", .str spec.memoryBank)] ++
    match image with
    | .plain _ => []
    | .jffs j => [("flash_device_id", .str j.flashDeviceId), ("cleanmarker", geometry j.cleanmarker),
        ("per_block_timeout", span j.perBlockTimeout)])

def state : State → String
  | .awaitingInterrupt => "AwaitingInterrupt"
  | .promptReady => "PromptReady"
  | .busy => "Busy"
  | .exited => "Exited"

def verdict (v : Verdict) : Json :=
  .obj [("status", .str v.status.text), ("message", .str v.message),
    ("stage", Json.ofText? (v.stage.map (·.text))),
    ("subresults", .arr (v.parts.map fun p => .arr [.str p.name, .str p.status.text, .str p.message]))]

def summary (s : Summary) : Json :=
  .obj [("passed", .nat s.passed), ("failed", .nat s.failed), ("skipped", .nat s.skipped),
    ("total", .nat s.total), ("success", .bool s.isSuccess)]

/-- An event; `lines` says whether what became of a test is also shown in one line. -/
def event (timed lines : Bool) (event : Event × Nat) : Json :=
  let items : List Json := match event.1 with
    | .line setting clears => [.str "line", .str setting, .nat clears]
    | .reboot o => [.str "reboot", .bool o.flash, .bool o.hard]
    | .progress step done total => [.str "flash", .str step, .nat done, .nat total]
    | .report (.started name) => [.str "start", .str name]
    | .report (.finished name v) =>
      [.str "finish", .str name, verdict v] ++ if lines then [.str (v.line name)] else []
    | .report (.summary s) => [.str "summary", summary s]
    | .load files => [.str "load", .arr (files.map .str)]
    | .body => [.str "body"]
  .arr (items ++ if timed then [.nat (event.2 / 1000)] else [])

/-- The events since there were so many, in order. -/
def events (timed : Bool) (w : World) (since : Nat) (lines : Bool) : List Json :=
  ((w.events.take (w.events.length - since)).reverse).map (event timed lines)

def helper (h : HelperSpec) : Json :=
  .obj [("program", .str h.program), ("args", .arr (h.args.map .str)), ("cwd", Json.ofText? h.cwd),
    ("ready_marker", .str h.marker), ("ready_timeout", span h.readyTimeout),
    ("wait_for_path", Json.ofText? h.waitForPath), ("path_timeout", span h.pathTimeout),
    ("stop_timeout", span h.stopTimeout)]

def test (t : Test World) : Json :=
  .obj [("name", .str t.name), ("should_reboot", .bool t.shouldReboot), ("ignore", .bool t.ignore),
    ("timeout", span t.timeout), ("suppress_kernel_log", .bool t.suppressKernelLog),
    ("needs_app_load", .bool t.needsAppLoad), ("command", Json.ofText? t.body.command),
    ("apps", (t.bootloader.map fun apps => Json.arr (apps.map app)).getD .null),
    ("shell", (t.shell.map fun s =>
      Json.obj [("prompt", Json.ofText? s.prompt), ("bootup_timeout", span? s.bootupTimeout)]).getD .null)]

def stage (stage : Stage) : Json :=
  let detail : Json := match stage with
    | .reboot o => .arr [.bool o.flash, .bool o.hard]
    | .bootloader apps => .arr (apps.map app)
    | .shell prompt timeout poke => .arr [.str prompt, span timeout, .bool poke]
    | .kernelLog command prompt enable => .arr [.str command, .str prompt, .bool enable]
    | .body => .null
    | .closingPrompt prompt => .arr [.str prompt]
  .obj [("name", .str stage.name), ("failure_stage", .str stage.failureStage.text), ("detail", detail)]

def host (h : HostConfig) : Json :=
  let number (n : Option Nat) : Json := (n.map Json.nat).getD .null
  .obj [("kind", .str h.kind.name),
    ("gpio", .obj [("power", number h.pins.power), ("reset", number h.pins.reset),
      ("boot", number h.pins.boot), ("active_low", .bool h.pins.activeLow)]),
    ("modem", Json.ofText? h.modem),
    ("debugger", (h.debugger.map fun args => Json.arr (args.map .str)).getD .null),
    ("interactive", .bool h.interactive), ("interactive_timeout", span h.interactiveTimeout),
    ("timings", .arr [span h.timings.powerOff, span h.timings.powerOn, span h.timings.resetPulse])]

def exitStatus? (s : Option ExitStatus) : Json := Json.ofText? (s.map (·.text))

end BoardBench.Scenario.Answer
