import BoardBench.Error
import BoardBench.Regex
import BoardBench.Text.Utf8

/-!
# Patterns

What is waited for on a console: exact bytes or a regular expression. `earliest?` picks, from an
ordered list of patterns, the one whose match begins first, and of two that begin together the one
listed first.
-/

namespace BoardBench

/-- Something to wait for. -/
inductive Pattern where
  | literal (bytes : Bytes)
  | regex (re : Regex)

/-- A place in the bytes at which a pattern matches. -/
structure Found where
  start : Nat
  finish : Nat
  /-- The texts of the named groups that took part. -/
  groups : List (String × String)
  deriving DecidableEq, Repr

namespace Pattern

/-- An exact text. -/
def text (s : String) : Pattern := literal (Bytes.ofText s)

/-- A regular expression from its written form. -/
def ofRegex? (regexes : Regexes) (source : String) : Except Error Pattern :=
  match regexes.compile source with
  | .ok re => .ok (regex re)
  | .error reason => .error (.pattern reason)

/-- The first match in the bytes. -/
def find? : Pattern → Bytes → Option Found
  | literal needle, bytes =>
    (Bytes.indexOf? needle bytes).map fun i => ⟨i, i + needle.length, []⟩
  | regex re, bytes =>
    (re.captures bytes).map fun c =>
      ⟨c.start, c.finish, c.groups.map fun (name, bytes) => (name, Text.lossy bytes)⟩

/-- The pattern as messages show it. -/
def describe : Pattern → String
  | literal bytes => Text.quoted (Text.lossy bytes)
  | regex re => "/" ++ re.source ++ "/"

/-- A list of patterns as messages show it. -/
def describeAll (ps : List Pattern) : String := " | ".intercalate (ps.map describe)

/-- The earlier of two matches, the first of them if they begin together. -/
def better (a : Nat × Found) (b : Option (Nat × Found)) : Nat × Found :=
  match b with
  | some b => if b.2.start < a.2.start then b else a
  | none => a

/-- The match that begins first, with the index of its pattern counted from `index`. -/
def earliestFrom (index : Nat) (bytes : Bytes) : List Pattern → Option (Nat × Found)
  | [] => none
  | p :: ps =>
    match p.find? bytes with
    | some found => some (better (index, found) (earliestFrom (index + 1) bytes ps))
    | none => earliestFrom (index + 1) bytes ps

/-- The match that begins first, with the index of its pattern. -/
def earliest? (ps : List Pattern) (bytes : Bytes) : Option (Nat × Found) := earliestFrom 0 bytes ps

end Pattern

/-- An awaited pattern that arrived. -/
structure Match where
  /-- Which of the patterns. -/
  index : Nat
  groups : List (String × String)
  /-- What arrived before it. -/
  before : Bytes
  matched : Bytes
  deriving DecidableEq, Repr

namespace Match

def beforeText (m : Match) : String := Text.lossy m.before
def matchedText (m : Match) : String := Text.lossy m.matched

/-- The text of a named group, if it took part. -/
def group? (m : Match) (name : String) : Option String :=
  (m.groups.find? (·.1 == name)).map (·.2)

end Match
end BoardBench
