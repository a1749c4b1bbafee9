import BoardBench.Bytes
import BoardBench.Error

/-!
# Simulated boards

A board that plays a part: it prints items, at once or after a while, and answers what is written to
it by rules that fire strictly in order. Times are nanoseconds on the clock of whoever asks.
-/

namespace BoardBench.Sim

/-- Something that a read meets. -/
inductive Item where
  | data (bytes : Bytes)
  /-- A read fails once. -/
  | fault (kind : FaultKind)
  /-- The stream has ended. -/
  | ended
  deriving Repr

/-- An item and how long after it is emitted it arrives. -/
structure Emission where
  item : Item
  delay : Span
  deriving Repr

/-- An answer to something written. -/
structure Rule where
  trigger : Bytes
  reply : List Emission
  /-- Whether the rule stays when it has fired. -/
  repeats : Bool
  deriving Repr

/-- What was done to a board. -/
structure Tally where
  written : Bytes := []
  consumed : Nat := 0
  reopens : Nat := 0
  clears : Nat := 0
  closes : Nat := 0
  deriving Repr

/-- A board that plays a part. -/
structure Board where
  name : String := "scripted"
  /-- What has arrived. -/
  incoming : List Item := []
  /-- What is still to arrive, and when. -/
  delayed : List (Nat × Item) := []
  rules : List Rule := []
  /-- What was written and has fired no rule. -/
  unmatched : Bytes := []
  /-- What the board prints each time it is reopened, the last one again when used up. -/
  reopenOut : List (List Emission) := []
  /-- A read with nothing to come ends the stream. -/
  endsWhenIdle : Bool := false
  /-- Most bytes that one write takes. -/
  writeChunk : Option Nat := none
  /-- Most bytes that are taken altogether. -/
  writeLimit : Option Nat := none
  clearFault : Option FaultKind := none
  closeFault : Option FaultKind := none
  canReopen : Bool := true
  closed : Bool := false
  timeout : Span := .ofMillis 100
  tally : Tally := {}
  deriving Repr

namespace Board

/-- The item, in its place by the time it arrives; behind those that arrive at the same time. -/
def insertDelayed (due : Nat) (item : Item) : List (Nat × Item) → List (Nat × Item)
  | [] => [(due, item)]
  | (d, i) :: rest =>
    if due < d then (due, item) :: (d, i) :: rest else (d, i) :: insertDelayed due item rest

/-- Prints one item. -/
def emitOne (now : Nat) (b : Board) (e : Emission) : Board :=
  if e.delay.nanos = 0 then { b with incoming := b.incoming ++ [e.item] }
  else { b with delayed := insertDelayed (now + e.delay.nanos) e.item b.delayed }

/-- Prints items. -/
def emit (now : Nat) (es : List Emission) (b : Board) : Board := es.foldl (emitOne now) b

/-- Fires the rules that can fire, at most `fuel` of them. -/
def fireRules (now : Nat) : Nat → Board → Board
  | 0, b => b
  | fuel + 1, b =>
    match b.rules with
    | [] => b
    | rule :: rest =>
      match Bytes.indexOf? rule.trigger b.unmatched with
      | none => b
      | some i =>
        let left := b.unmatched.drop (i + rule.trigger.length)
        let b := { b with unmatched := left, rules := if rule.repeats then b.rules else rest }
        fireRules now fuel (emit now rule.reply b)

/-- Moves what has arrived by now to what can be read. -/
def settle (now : Nat) (b : Board) : Board :=
  let due := b.delayed.takeWhile (·.1 ≤ now)
  { b with
    incoming := b.incoming ++ due.map (·.2)
    delayed := b.delayed.drop due.length }

/-- The incoming items without empty data in front. -/
def skipEmpty : List Item → List Item
  | .data [] :: rest => skipEmpty rest
  | items => items

/-- Reads at most `n` bytes, waiting till `deadline`; also gives the time when the read is over. -/
def readUntil (n deadline : Nat) : Nat → Nat → Board → Except Fault Bytes × Nat × Board
  | 0, now, b => (.error ⟨.timedOut, "no data"⟩, max now deadline, b)
  | fuel + 1, now, b =>
    if b.closed then (.error ⟨.notConnected, "closed"⟩, now, b)
    else
      let b := settle now b
      match skipEmpty b.incoming with
      | .data bytes :: rest =>
        let given := bytes.take n
        let rest := if bytes.length ≤ n then rest else .data (bytes.drop n) :: rest
        (.ok given, now,
          { b with incoming := rest
                   tally := { b.tally with consumed := b.tally.consumed + given.length } })
      | .fault kind :: rest => (.error ⟨kind, "scripted failure"⟩, now, { b with incoming := rest })
      | .ended :: rest => (.ok [], now, { b with incoming := .ended :: rest })
      | [] =>
        let b := { b with incoming := [] }
        match b.delayed with
        | [] =>
          if b.endsWhenIdle then (.ok [], now, b)
          else (.error ⟨.timedOut, "no data"⟩, deadline, b)
        | (due, _) :: _ =>
          if due ≤ deadline then readUntil n deadline fuel (max now due) b
          else (.error ⟨.timedOut, "no data"⟩, deadline, b)

/-- Reads at most `n` bytes within the timeout. -/
def read (n now : Nat) (b : Board) : Except Fault Bytes × Nat × Board :=
  readUntil n (now + b.timeout.nanos) (b.delayed.length + 2) now b

/-- Takes written bytes. -/
def write (now : Nat) (bytes : Bytes) (b : Board) : Except Fault Nat × Board :=
  let room := (b.writeLimit.map (· - b.tally.written.length)).getD bytes.length
  if bytes.isEmpty then (.ok 0, b)
  else if room = 0 then (.error ⟨.brokenPipe, "scripted write failure"⟩, b)
  else
    let n := min (min bytes.length room) (b.writeChunk.getD bytes.length)
    let taken := bytes.take n
    let b := { b with
      unmatched := b.unmatched ++ taken
      tally := { b.tally with written := b.tally.written ++ taken } }
    (.ok n, fireRules now (b.unmatched.length + b.rules.length) b)

/-- Forgets what has arrived. -/
def clear (b : Board) : Except Error Unit × Board :=
  match b.clearFault with
  | some kind => (.error (.io ⟨kind, "scripted clear failure"⟩), b)
  | none =>
    (.ok (), { b with incoming := [], tally := { b.tally with clears := b.tally.clears + 1 } })

/-- Starts again, and prints what it prints then. -/
def reopen (now : Nat) (b : Board) : Board :=
  let k := min b.tally.reopens (b.reopenOut.length - 1)
  let b := { b with
    incoming := []
    delayed := []
    closed := false
    tally := { b.tally with reopens := b.tally.reopens + 1 } }
  emit now (b.reopenOut[k]?.getD []) b

/-- Hangs up. -/
def close (b : Board) : Except Error Unit × Board :=
  let b := { b with closed := true, tally := { b.tally with closes := b.tally.closes + 1 } }
  match b.closeFault with
  | some kind => (.error (.io ⟨kind, "scripted close failure"⟩), b)
  | none => (.ok (), b)

/-- Rules that are still to fire. -/
def pendingRules (b : Board) : Nat := (b.rules.filter fun r => !r.repeats).length

/-- What a board still holds ready, in reads that need not wait. -/
def backlog (b : Board) : Nat :=
  let weight : Item → Nat
    | .data bytes => bytes.length + 1
    | .fault _ => 1
    | .ended => 1
  b.incoming.foldr (weight · + ·) 0 + b.delayed.foldr (fun d n => weight d.2 + n) 0

end Board
end BoardBench.Sim
