import BoardBench.Bytes

/-!
# Shell scripts

The part of the shell's language in which the programs of a simulated machine are written: simple
commands, loops, and choices by pattern.
-/

namespace BoardBench.Sim.Shell

/-- A part of a word. -/
inductive Piece where
  | text (bytes : Bytes)
  | variable (name : String)
  /-- Any text, in a pattern. -/
  | star
  /-- Any character, in a pattern. -/
  | one
  deriving Repr, DecidableEq

/-- A word. -/
abbrev Word := List Piece

/-- A command. -/
inductive Command where
  /-- A program or builtin with its arguments, and a file for its output. -/
  | simple (words : List Word) (output : Option Word) (background : Bool)
  | loop (test body : List Command)
  | choice (subject : Word) (arms : List (List Word × List Command))
  deriving Repr

end BoardBench.Sim.Shell
