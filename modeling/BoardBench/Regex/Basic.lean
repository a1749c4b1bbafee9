import BoardBench.Text.Classes

/-!
# Regular expressions

The parts that a regular expression is built of. A class is a set of numbers: code points where a
whole character is matched, byte values where a single byte is.
-/

namespace BoardBench.Regex

/-- A set of code points or byte values. -/
inductive CharSet where
  | none
  | range (lo hi : Nat)
  | digit
  | space
  | word
  | alphabetic
  | categories (cs : List Text.Category)
  | union (a b : CharSet)
  | inter (a b : CharSet)
  | diff (a b : CharSet)
  | compl (a : CharSet)
  /-- Everything that differs from a member at most in case. -/
  | anyCase (a : CharSet)
  deriving DecidableEq, Repr

namespace CharSet

/-- The set of one number. -/
def single (c : Nat) : CharSet := range c c

/-- Membership. -/
def mem : CharSet → Nat → Bool
  | none, _ => false
  | range lo hi, c => lo ≤ c && c ≤ hi
  | digit, c => Text.isDigit c
  | space, c => Text.isSpace c
  | word, c => Text.isWord c
  | alphabetic, c => Text.isAlphabetic c
  | categories cs, c => cs.contains (Text.Category.ofCodePoint c)
  | union a b, c => a.mem c || b.mem c
  | inter a b, c => a.mem c && b.mem c
  | diff a b, c => a.mem c && !b.mem c
  | compl a, c => !a.mem c
  | anyCase a, c => a.mem c || (Text.caseVariants c).any a.mem

/-- The members of either of two sets but not of both. -/
def symmDiff (a b : CharSet) : CharSet := diff (union a b) (inter a b)

/-- The union of ranges. -/
def ofRanges (rs : List (Nat × Nat)) : CharSet :=
  rs.foldr (fun (lo, hi) acc => union (range lo hi) acc) none

end CharSet

/-- Where in a text a position may have to be. -/
inductive Look where
  | start | finish
  | lineStart | lineFinish
  | lineStartCrlf | lineFinishCrlf
  | wordBoundary (unicode : Bool) | notWordBoundary (unicode : Bool)
  | wordStart (unicode : Bool) | wordFinish (unicode : Bool)
  | wordStartHalf (unicode : Bool) | wordFinishHalf (unicode : Bool)
  deriving DecidableEq, Repr

/-- A regular expression. -/
inductive Node where
  | empty
  /-- A whole character, in UTF-8. -/
  | char (set : CharSet)
  /-- A single byte. -/
  | byte (set : CharSet)
  | look (at_ : Look)
  /-- A group that is captured under an index. -/
  | group (index : Nat) (inner : Node)
  | cat (a b : Node)
  /-- The first alternative is preferred. -/
  | alt (a b : Node)
  /-- At least `min` and at most `max` times, as often as possible if greedy, else as rarely. -/
  | rep (min : Nat) (max : Option Nat) (greedy : Bool) (inner : Node)
  deriving DecidableEq, Repr

namespace Node

/-- One after the other. -/
def cats : List Node → Node
  | [] => empty
  | [n] => n
  | n :: ns => cat n (cats ns)

/-- How many steps the expression unfolds to. -/
def weight : Node → Nat
  | empty | look _ | byte _ | char _ => 1
  | group _ n => n.weight + 2
  | cat a b => a.weight + b.weight
  | alt a b => a.weight + b.weight + 1
  | rep min max _ n => (n.weight + 1) * (max.getD (min + 1))

end Node
end BoardBench.Regex
