import BoardBench.Machine.Operator
import BoardBench.Text.Utf8

/-!
# Simulated operators

A person at the bench types bytes, now or once what is on the screen can be seen. Complete lines wait
to be read; input that is no text ends the reading.
-/

namespace BoardBench.Sim

/-- Something that got to the screen. -/
inductive Shown where
  | text (s : String)
  | flush
  | note (level : Level) (s : String)
  deriving DecidableEq, Repr

/-- A person. -/
structure Person where
  /-- Lines that were typed and not yet read. -/
  lines : List String := []
  /-- The beginning of a line. -/
  begun : Bytes := []
  /-- There will be no more lines. -/
  ended : Bool := false
  /-- What is typed once the screen has been refreshed, and whether the input is closed then. -/
  answer : Option (Bytes × Bool) := none
  /-- Nothing can be shown. -/
  blind : Bool := false
  deriving Repr

namespace Person

/-- Cuts bytes into complete lines and the beginning of one; `acc` is the line so far, reversed. -/
def cutLines : Bytes → Bytes → List Bytes × Bytes
  | acc, [] => ([], acc.reverse)
  | acc, b :: rest =>
    if b == 0x0A then
      let (lines, begun) := cutLines [] rest
      (acc.reverse :: lines, begun)
    else cutLines (b :: acc) rest

/-- A line without the return before its end. -/
def withoutReturn (line : Bytes) : Bytes :=
  if line.getLast? == some 0x0D then line.dropLast else line

/-- Delivers complete lines. -/
def deliver : List Bytes → Person → Person
  | [], p => p
  | line :: rest, p =>
    if p.ended then p
    else
      match Text.decode? line with
      | some s => deliver rest { p with lines := p.lines ++ [s] }
      | none => { p with ended := true }

/-- Types bytes. -/
def type (bytes : Bytes) (p : Person) : Person :=
  if p.ended then p
  else
    let (lines, begun) := cutLines [] (p.begun ++ bytes)
    deliver (lines.map withoutReturn) { p with begun }

/-- Closes the input; the beginning of a line counts as one. -/
def hangUp (p : Person) : Person :=
  if p.ended then p
  else
    let p := if p.begun.isEmpty then p else deliver [p.begun] { p with begun := [] }
    { p with ended := true }

/-- Types the answer, if there is one. -/
def react (p : Person) : Person :=
  match p.answer with
  | none => p
  | some (bytes, close) =>
    let p := type bytes { p with answer := none }
    if close then hangUp p else p

end Person
end BoardBench.Sim
