import BoardBench.Bytes
import BoardBench.Text.Utf8
import BoardBench.Regex.Basic

/-!
# Searching bytes for a regular expression

`ends` lists where a match that begins at a place can end, the preferred end first, each end once
and with what the groups caught on the preferred way to it. `search` takes the first place of the
bytes at which a match begins, and of the matches there the preferred one.
-/

namespace BoardBench.Regex

/-- A place in the bytes: what has been passed, nearest first, and what is to come. -/
structure Cursor where
  pos : Nat
  passed : Bytes
  rest : Bytes
  deriving Repr

namespace Cursor

/-- The place before the first byte. -/
def start (bytes : Bytes) : Cursor := ⟨0, [], bytes⟩

/-- The place `n` bytes on. -/
def advance : Nat → Cursor → Cursor
  | 0, c => c
  | n + 1, ⟨pos, passed, b :: rest⟩ => advance n ⟨pos + 1, b :: passed, rest⟩
  | _ + 1, ⟨pos, passed, []⟩ => ⟨pos, passed, []⟩

/-- Number of bytes of a code point in UTF-8. -/
def width (c : Nat) : Nat :=
  if c < 0x80 then 1 else if c < 0x800 then 2 else if c < 0x10000 then 3 else 4

/-- The character that begins here; none at the end, `some none` where the bytes are no character. -/
def charAfter (cur : Cursor) : Option (Option Nat) :=
  match cur.rest with
  | [] => none
  | b :: rest => some (Text.head b rest).1

/-- Of bytes read backwards, those back to the first that begins a character, at most four. -/
def backToLead : Nat → Bytes → Bytes → Bytes
  | n + 1, b :: before, acc =>
    if Text.isContinuation b && n != 0 && !before.isEmpty then backToLead n before (b :: acc)
    else b :: acc
  | _, _, acc => acc

/-- The character that ends here, read like `charAfter`. -/
def charBefore (cur : Cursor) : Option (Option Nat) :=
  match backToLead 4 cur.passed [] with
  | [] => none
  | b :: rest => some (Text.head b rest).1

/-- Whether a word character of ASCII. -/
def isAsciiWord (c : Nat) : Bool := c < 0x80 && Text.isWord c

/-- Whether word characters stand before and after the place, each none if the bytes there are no
character. -/
def words (unicode : Bool) (cur : Cursor) : Option Bool × Option Bool :=
  if unicode then
    let side : Option (Option Nat) → Option Bool
      | none => some false
      | some none => none
      | some (some c) => some (Text.isWord c)
    (side cur.charBefore, side cur.charAfter)
  else
    (some (cur.passed.head?.elim false fun b => isAsciiWord b.toNat),
     some (cur.rest.head?.elim false fun b => isAsciiWord b.toNat))

/-- Whether the place is where `l` asks for. -/
def satisfies (cur : Cursor) : Look → Bool
  | .start => cur.passed.isEmpty
  | .finish => cur.rest.isEmpty
  | .lineStart => cur.passed.isEmpty || cur.passed.head? == some 0x0A
  | .lineFinish => cur.rest.isEmpty || cur.rest.head? == some 0x0A
  | .lineStartCrlf =>
    cur.passed.isEmpty || cur.passed.head? == some 0x0A ||
    (cur.passed.head? == some 0x0D && cur.rest.head? != some 0x0A)
  | .lineFinishCrlf =>
    cur.rest.isEmpty || cur.rest.head? == some 0x0D ||
    (cur.rest.head? == some 0x0A && cur.passed.head? != some 0x0D)
  | .wordBoundary u => let (a, b) := cur.words u; a.getD false != b.getD false
  | .notWordBoundary u =>
    match cur.words u with
    | (some a, some b) => a == b
    | _ => false
  | .wordStart u => let (a, b) := cur.words u; !a.getD false && b.getD false
  | .wordFinish u => let (a, b) := cur.words u; a.getD false && !b.getD false
  | .wordStartHalf u => (cur.words u).1 == some false
  | .wordFinishHalf u => (cur.words u).2 == some false

end Cursor

/-- What groups caught: the index of a group, where it began and where it ended, latest first. -/
abbrev Caught := List (Nat × Cursor × Cursor)

/-- Ways to end a match, the preferred one first. -/
abbrev Ends := List (Cursor × Caught)

/-- A set of positions, as the bits of a number. -/
abbrev Marks := Nat

/-- Keeps the first way to each end that is not marked, and marks it. -/
def distinctFrom (marks : Marks) : Ends → Ends
  | [] => []
  | (c, caps) :: es =>
    if marks.testBit c.pos then distinctFrom marks es
    else (c, caps) :: distinctFrom (marks ||| (1 <<< c.pos)) es

/-- Keeps the first way to each end. -/
def distinct (es : Ends) : Ends :=
  match es with
  | [] => []
  | [e] => [e]
  | es => distinctFrom 0 es

/-- Goes on from every end. -/
def thenFrom (es : Ends) (next : Cursor → Caught → Ends) : Ends :=
  match es with
  | [] => []
  | [(c, caps)] => next c caps
  | es => distinct (es.flatMap fun (c, caps) => next c caps)

/-- `n` times, one after the other. -/
def times (step : Cursor → Caught → Ends) : Nat → Cursor → Caught → Ends
  | 0, c, caps => [(c, caps)]
  | n + 1, c, caps => thenFrom (step c caps) (times step n)

/-- At most `n` times. -/
def upTo (step : Cursor → Caught → Ends) (greedy : Bool) : Nat → Cursor → Caught → Ends
  | 0, c, caps => [(c, caps)]
  | n + 1, c, caps =>
    let more := thenFrom (step c caps) (upTo step greedy n)
    if greedy then distinct (more ++ [(c, caps)]) else distinct ((c, caps) :: more)

/-- At least once, and from no marked place a second time: with `fuel` bytes to come there are no
more places than that to go on from. Also gives the marks with the places it went on from. -/
def plus (step : Cursor → Caught → Ends) (greedy : Bool) :
    Nat → Marks → Cursor → Caught → Ends × Marks
  | fuel, marks, c, caps =>
    (step c caps).foldl (fun (acc : Ends × Marks) (e : Cursor × Caught) =>
        if acc.2.testBit e.1.pos then (acc.1 ++ [e], acc.2)
        else
          match fuel with
          | 0 => (acc.1 ++ [e], acc.2)
          | fuel + 1 =>
            let (more, marks) := plus step greedy fuel (acc.2 ||| (1 <<< e.1.pos)) e.1 e.2
            (acc.1 ++ (if greedy then more ++ [e] else e :: more), marks))
      ([], marks)

/-- At least once. -/
def onceOrMore (step : Cursor → Caught → Ends) (greedy : Bool) (c : Cursor) (caps : Caught) :
    Ends :=
  distinct (plus step greedy (c.rest.length + 1) (1 <<< c.pos) c caps).1

namespace Node

/-- Where a match that begins at a place can end. -/
def ends : Node → Cursor → Caught → Ends
  | empty, c, caps => [(c, caps)]
  | char set, c, caps =>
    match c.charAfter with
    | some (some x) => if set.mem x then [(c.advance (Cursor.width x), caps)] else []
    | _ => []
  | byte set, c, caps =>
    match c.rest with
    | b :: _ => if set.mem b.toNat then [(c.advance 1, caps)] else []
    | [] => []
  | look l, c, caps => if c.satisfies l then [(c, caps)] else []
  | group i n, c, caps => (n.ends c caps).map fun (d, caps) => (d, (i, c, d) :: caps)
  | cat a b, c, caps => thenFrom (a.ends c caps) b.ends
  | alt a b, c, caps => distinct (a.ends c caps ++ b.ends c caps)
  | rep 0 none greedy n, c, caps =>
    let more := onceOrMore n.ends greedy c caps
    if greedy then distinct (more ++ [(c, caps)]) else distinct ((c, caps) :: more)
  | rep (k + 1) none greedy n, c, caps =>
    thenFrom (times n.ends k c caps) (onceOrMore n.ends greedy)
  | rep k (some m) greedy n, c, caps =>
    thenFrom (times n.ends k c caps) (upTo n.ends greedy (m - k))

end Node

/-- A match: where it begins, where it ends and what its groups caught. -/
structure Hit where
  start : Cursor
  finish : Cursor
  caught : Caught

/-- The first place from `c` on, before any of `rest` or after it, at which a match begins. -/
def searchFrom (n : Node) (pos : Nat) (passed : Bytes) : Bytes → Option Hit
  | [] => match n.ends ⟨pos, passed, []⟩ [] with
    | (e, caps) :: _ => some ⟨⟨pos, passed, []⟩, e, caps⟩
    | [] => none
  | b :: rest => match n.ends ⟨pos, passed, b :: rest⟩ [] with
    | (e, caps) :: _ => some ⟨⟨pos, passed, b :: rest⟩, e, caps⟩
    | [] => searchFrom n (pos + 1) (b :: passed) rest

/-- The preferred match at the first place where one begins. -/
def search (n : Node) (bytes : Bytes) : Option Hit := searchFrom n 0 [] bytes

end BoardBench.Regex
