import BoardBench.Bytes

/-!
# Compiled regular expressions

A regular expression is compiled by a library, which is not a part of the bench. What is known of a
compiled expression is its written form, and what it finds: a place in the bytes, with the texts of its
named groups. That this is where a match begins first is what a library promises
(`Regex.Leftmost`); it is assumed where something rests on it.
-/

namespace BoardBench

/-- What a regular expression catches: where a match lies, and the bytes of the named groups that took
part in it. -/
structure Regex.Captures where
  start : Nat
  finish : Nat
  groups : List (String × Bytes)
  deriving DecidableEq, Repr

/-- A compiled regular expression. -/
structure Regex where
  /-- The written form. -/
  source : String
  captures : Bytes → Option Regex.Captures
  within : ∀ bytes c, captures bytes = some c → c.start ≤ c.finish ∧ c.finish ≤ bytes.length

/-- Of the matches in the bytes, one that begins first is found; `Matches` says which there are. -/
structure Regex.Leftmost (re : Regex) (Matches : Bytes → Captures → Prop) : Prop where
  found : ∀ bytes c, re.captures bytes = some c → Matches bytes c
  first : ∀ bytes c c', re.captures bytes = some c → Matches bytes c' → c.start ≤ c'.start
  complete : ∀ bytes c, Matches bytes c → (re.captures bytes).isSome = true

/-- The written form of the expression that the bootloader's reports on blocks are awaited with. -/
def blockReportSource : String := "block (?P<index>\\d+)/(?P<count>\\d+)\\D"

/-- A library that compiles regular expressions. -/
structure Regexes where
  /-- The compiled form, or why there is none. -/
  compile : String → Except String Regex
  blockReport : Regex
  compile_blockReport : compile blockReportSource = .ok blockReport

end BoardBench
