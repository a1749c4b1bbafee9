import BoardBench.Text.Numeral
import BoardBench.Regex.Basic

/-!
# Reading regular expressions

`Regex.read` turns the written form into an expression, with the number and the names of its groups.
Flags in parentheses hold until the group around them ends. What is no regular expression is
refused with a reason.
-/

namespace BoardBench.Regex

/-- What the flags say. -/
structure Flags where
  ignoreCase : Bool := false
  multiLine : Bool := false
  dotMatchesNewline : Bool := false
  swapGreed : Bool := false
  unicode : Bool := true
  crlf : Bool := false
  ignoreBlanks : Bool := false

/-- How far the reader has come. -/
structure ReadState where
  rest : List Char
  flags : Flags
  /-- Names of the groups so far, the latest first. -/
  groups : List (Option String)

/-- A reader of a part of an expression. -/
abbrev Reader := StateT ReadState (Except String)

namespace Reader

def peek : Reader (Option Char) := return (← get).rest.head?

def peekSecond : Reader (Option Char) := return (← get).rest[1]?

/-- Passes blanks and comments, where the flags say that they do not count. -/
def skipBlanks : Reader Unit :=
  modify fun s =>
    if s.flags.ignoreBlanks then
      -- a comment lasts to the end of its line
      let step (acc : List Char × Bool) (c : Char) : List Char × Bool :=
        match acc with
        | (kept, comment) =>
          if !kept.isEmpty then (kept ++ [c], false)
          else if comment then (kept, c != '\n')
          else if Text.isSpace c.toNat then (kept, false)
          else if c == '#' then (kept, true)
          else ([c], false)
      { s with rest := (s.rest.foldl step ([], false)).1 }
    else s

/-- Passes one character. -/
def bump : Reader Unit := modify fun s => { s with rest := s.rest.drop 1 }

/-- Passes `text` if it comes next. -/
def accept (text : String) : Reader Bool := do
  let s ← get
  if text.toList.isPrefixOf s.rest then
    set { s with rest := s.rest.drop text.length }
    return true
  return false

/-- The next character, which is passed. -/
def next (missing : String) : Reader Char := do
  match ← peek with
  | some c => bump; return c
  | none => throw missing

/-- Passes the characters that `p` holds of. -/
def takeWhile (p : Char → Bool) : Reader (List Char) := do
  let s ← get
  set { s with rest := s.rest.dropWhile p }
  return s.rest.takeWhile p

end Reader

open Reader

/-- Characters that an escape may stand before to be taken for themselves. -/
def isEscapable (c : Char) : Bool :=
  c.toNat < 0x80 && !c.isAlphanum && c != '<' && c != '>'

/-- One thing that an escape can mean. -/
inductive Escape where
  | literal (c : Nat)
  /-- A number written in hexadecimal, which names a byte where bytes are matched. -/
  | coded (c : Nat)
  | set (s : CharSet)
  | look (l : Look)

/-- The set with the bounds that ASCII puts on it where bytes are matched. -/
def bounded (flags : Flags) (s : CharSet) : CharSet :=
  if flags.unicode then s else .inter s (.range 0 0x7F)

/-- A code point written in hexadecimal, with `digits` digits or in braces. -/
def readCode (digits : Nat) : Reader Nat := do
  skipBlanks
  let text ← if ← accept "\x7b" then do
      let inner ← takeWhile (· != '\x7d')
      unless ← accept "\x7d" do throw "unclosed hexadecimal escape"
      pure inner
    else do
      let s ← get
      set { s with rest := s.rest.drop digits }
      if s.rest.length < digits then throw "incomplete escape"
      pure (s.rest.take digits)
  match Text.ofDigits? 16 Text.hexDigit? text with
  | some n => if n.isValidChar then return n else throw "escape is no character"
  | none => throw "bad hexadecimal escape"

/-- Category names, short and long, in the loose form in which they are compared. -/
def categorySets : List (List String × List Text.Category) := [
  (["lu", "uppercaseletter"], [.lu]), (["ll", "lowercaseletter"], [.ll]),
  (["lt", "titlecaseletter"], [.lt]), (["lc", "casedletter"], [.lu, .ll, .lt]),
  (["lm", "modifierletter"], [.lm]), (["lo", "otherletter"], [.lo]),
  (["l", "letter"], [.lu, .ll, .lt, .lm, .lo]), (["mn", "nonspacingmark"], [.mn]),
  (["mc", "spacingmark"], [.mc]), (["me", "enclosingmark"], [.me]),
  (["m", "mark", "combiningmark"], [.mn, .mc, .me]), (["nd", "decimalnumber", "digit"], [.nd]),
  (["nl", "letternumber"], [.nl]), (["no", "othernumber"], [.no]),
  (["n", "number"], [.nd, .nl, .no]), (["pc", "connectorpunctuation"], [.pc]),
  (["pd", "dashpunctuation"], [.pd]), (["ps", "openpunctuation"], [.ps]),
  (["pe", "closepunctuation"], [.pe]), (["pi", "initialpunctuation"], [.pi]),
  (["pf", "finalpunctuation"], [.pf]), (["po", "otherpunctuation"], [.po]),
  (["p", "punctuation", "punct"], [.pc, .pd, .ps, .pe, .pi, .pf, .po]),
  (["sm", "mathsymbol"], [.sm]), (["sc", "currencysymbol"], [.sc]),
  (["sk", "modifiersymbol"], [.sk]), (["so", "othersymbol"], [.so]),
  (["s", "symbol"], [.sm, .sc, .sk, .so]), (["zs", "spaceseparator"], [.zs]),
  (["zl", "lineseparator"], [.zl]), (["zp", "paragraphseparator"], [.zp]),
  (["z", "separator"], [.zs, .zl, .zp]), (["cc", "control", "cntrl"], [.cc]),
  (["cf", "format"], [.cf]), (["co", "privateuse"], [.co]), (["cn", "unassigned"], [.cn]),
  (["c", "other"], [.cc, .cf, .co, .cn])]

/-- The set of a property name in its loose form. -/
def property? (name : String) : Option CharSet :=
  match categorySets.find? fun e => e.1.contains name with
  | some (_, cs) => some (.categories cs)
  | none =>
    match name with
    | "any" => some (.range 0 0x10FFFF)
    | "ascii" => some (.range 0 0x7F)
    | "assigned" => some (.compl (.categories [.cn]))
    | "alphabetic" | "alpha" => some .alphabetic
    | "whitespace" | "wspace" | "space" => some .space
    | "word" | "w" => some .word
    | _ => none

/-- A property name without the differences that do not count. -/
def looseName (cs : List Char) : String :=
  let kept := cs.filter fun c => c.toNat < 0x80 && c != ' ' && c != '_' && c != '-'
  let lower := kept.map Char.toLower
  match lower with
  | 'i' :: 's' :: 'c' :: [] => "isc"
  | 'i' :: 's' :: rest => String.ofList rest
  | _ => String.ofList lower

/-- The rest of a property escape. -/
def readProperty (negated : Bool) : Reader CharSet := do
  unless (← get).flags.unicode do throw "properties need Unicode mode"
  let c ← next "incomplete escape"
  let (negated, name) ← if c == '\x7b' then do
      let inner ← takeWhile (· != '\x7d')
      unless ← accept "\x7d" do throw "unclosed property"
      match inner with
      | '^' :: more => pure (!negated, more)
      | more => pure (negated, more)
    else do
      if c == '\\' then throw "bad property"
      pure (negated, [c])
  let (negated, name) :=
    match name.span (fun c => c != '=' && c != ':') with
    | (key, _ :: value) =>
      let (negated, key) :=
        if key.getLast? == some '!' then (!negated, key.dropLast) else (negated, key)
      let loose := looseName key
      if loose == "gc" || loose == "generalcategory" then (negated, value) else (negated, ['?'])
    | (_, []) => (negated, name)
  match property? (looseName name) with
  | some set =>
    let set := if (← get).flags.ignoreCase then .anyCase set else set
    return if negated then .compl set else set
  | none => throw "unknown property"

/-- A special word boundary in braces after its escape. -/
def readBoundary (unicode : Bool) : Reader Look := do
  let s ← get
  let names : List (String × Look) := [
    ("\x7bstart\x7d", .wordStart unicode), ("\x7bend\x7d", .wordFinish unicode),
    ("\x7bstart-half\x7d", .wordStartHalf unicode), ("\x7bend-half\x7d", .wordFinishHalf unicode)]
  match names.find? fun e => e.1.toList.isPrefixOf s.rest with
  | some (name, l) =>
    set { s with rest := s.rest.drop name.length }
    return l
  | none =>
    match s.rest with
    | '\x7b' :: c :: _ =>
      -- in braces that begin like a name nothing else may stand
      if c.isAlpha || c == '-' then throw "unknown word boundary" else return .wordBoundary unicode
    | _ => return .wordBoundary unicode

/-- What stands after a backslash. -/
def readEscape : Reader Escape := do
  let flags := (← get).flags
  let c ← next "incomplete escape"
  match c with
  | 'x' => return .coded (← readCode 2)
  | 'u' => return .coded (← readCode 4)
  | 'U' => return .coded (← readCode 8)
  | 'p' => return .set (← readProperty false)
  | 'P' => return .set (← readProperty true)
  | 'd' => return .set (bounded flags .digit)
  | 's' => return .set (bounded flags .space)
  | 'w' => return .set (bounded flags .word)
  | 'D' => return .set (.compl (bounded flags .digit))
  | 'S' => return .set (.compl (bounded flags .space))
  | 'W' => return .set (.compl (bounded flags .word))
  | 'a' => return .literal 0x07
  | 'f' => return .literal 0x0C
  | 't' => return .literal 0x09
  | 'n' => return .literal 0x0A
  | 'r' => return .literal 0x0D
  | 'v' => return .literal 0x0B
  | 'A' => return .look .start
  | 'z' => return .look .finish
  | 'b' => return .look (← readBoundary flags.unicode)
  | 'B' => return .look (.notWordBoundary flags.unicode)
  | '<' => return .look (.wordStart flags.unicode)
  | '>' => return .look (.wordFinish flags.unicode)
  | c => if isEscapable c then return .literal c.toNat else throw "unknown escape"

/-- A set as a node, which matches characters or bytes as the flags say. -/
def setNode (flags : Flags) (s : CharSet) : Node := if flags.unicode then .char s else .byte s

/-- One number as a node. -/
def literalNode (flags : Flags) (c : Nat) : Node :=
  if flags.unicode then
    .char (if flags.ignoreCase then .anyCase (.single c) else .single c)
  else if flags.ignoreCase && c < 0x80 && (Char.ofNat c).isAlpha then
    .byte (.union (.single (Char.ofNat c).toUpper.toNat) (.single (Char.ofNat c).toLower.toNat))
  else .char (.single c)

/-- A set with the other case of its members, if case is ignored. -/
def caseClosed (flags : Flags) (s : CharSet) : CharSet :=
  if !flags.ignoreCase then s
  else if flags.unicode then .anyCase s
  else .union s (.inter (.anyCase (.inter s (.range 0 0x7F))) (.range 0 0x7F))

/-- The ASCII classes that a class can name between colons. -/
def namedClasses : List (String × List (Nat × Nat)) := [
  ("alnum", [(0x30, 0x39), (0x41, 0x5A), (0x61, 0x7A)]), ("alpha", [(0x41, 0x5A), (0x61, 0x7A)]),
  ("ascii", [(0, 0x7F)]), ("blank", [(9, 9), (0x20, 0x20)]), ("cntrl", [(0, 0x1F), (0x7F, 0x7F)]),
  ("digit", [(0x30, 0x39)]), ("graph", [(0x21, 0x7E)]), ("lower", [(0x61, 0x7A)]),
  ("print", [(0x20, 0x7E)]), ("punct", [(0x21, 0x2F), (0x3A, 0x40), (0x5B, 0x60), (0x7B, 0x7E)]),
  ("space", [(9, 13), (0x20, 0x20)]), ("upper", [(0x41, 0x5A)]),
  ("word", [(0x30, 0x39), (0x41, 0x5A), (0x5F, 0x5F), (0x61, 0x7A)]),
  ("xdigit", [(0x30, 0x39), (0x41, 0x46), (0x61, 0x66)])]

/-- A named class, if one comes next after the opening bracket. -/
def readNamedClass : Reader (Option CharSet) := do
  let s ← get
  match s.rest with
  | '[' :: ':' :: more =>
    let (negated, more) := match more with
      | '^' :: more => (true, more)
      | more => (false, more)
    let (name, after) := more.span (· != ':')
    match after, namedClasses.find? fun e => e.1 == String.ofList name with
    | ':' :: ']' :: rest, some (_, ranges) =>
      set { s with rest := rest }
      let members := CharSet.ofRanges ranges
      return some (if negated then .compl members else members)
    | _, _ => return none
  | _ => return none

/-- A part of a class: one number, which may begin a range, or a set. -/
inductive ClassPart where
  | number (c : Nat)
  | set (s : CharSet)

/-- One part of a class that is neither a range nor a class of its own. -/
def readClassPart : Reader ClassPart := do
  let flags := (← get).flags
  let c ← next "unclosed class"
  if c == '\\' then
    match ← readEscape with
    | .literal n => return .number n
    | .coded n =>
      if !flags.unicode && 0xFF < n then throw "no byte" else return .number n
    | .set s => return .set s
    | .look _ => throw "a class holds no places"
  else if !flags.unicode && 0x7F < c.toNat then throw "characters need Unicode mode"
  else return .number c.toNat

/-- One part of a class, or a range of two. -/
def readClassItem : Reader CharSet := do
  let first ← readClassPart
  skipBlanks
  match ← peek with
  | none => throw "unclosed class"
  | some '-' =>
    let following ← do
      let s ← get
      bump
      skipBlanks
      let c ← peek
      set s
      pure c
    if following == some ']' || following == some '-' then
      match first with
      | .number n => return .single n
      | .set s => return s
    bump
    skipBlanks
    let last ← readClassPart
    match first, last with
    | .number a, .number b => if a ≤ b then return .range a b else throw "range runs backwards"
    | _, _ => throw "a range needs single characters"
  | some _ =>
    match first with
    | .number n => return .single n
    | .set s => return s

/-- How two classes can be put together. -/
inductive ClassOp where
  | inter | diff | symmDiff

/-- Puts together what stands on both sides of an operator. -/
def ClassOp.apply : ClassOp → CharSet → CharSet → CharSet
  | inter, a, b => .inter a b
  | diff, a, b => .diff a b
  | symmDiff, a, b => CharSet.symmDiff a b

/-- A class from its opening bracket to its closing one; or what follows in it: `pending` is what
stands before the last operator, with it. -/
def readClass : Nat → Reader CharSet
  | 0 => throw "nested too deeply"
  | fuel + 1 => do
    bump
    skipBlanks
    let flags := (← get).flags
    let negated ← accept "^"
    skipBlanks
    let dashes ← takeWhile (· == '-')
    skipBlanks
    let first : CharSet := if dashes.isEmpty then .none else .single '-'.toNat
    let bracket ← if dashes.isEmpty then accept "]" else pure false
    let first := if bracket then .single ']'.toNat else first
    let s ← body fuel none first
    let s := caseClosed flags s
    return if negated then .compl s else s
where
  body : Nat → Option (CharSet × ClassOp) → CharSet → Reader CharSet
    | 0, _, _ => throw "nested too deeply"
    | fuel + 1, pending, acc => do
      let flags := (← get).flags
      let close (acc : CharSet) : CharSet :=
        match pending with
        | some (left, op) => op.apply (caseClosed flags left) (caseClosed flags acc)
        | none => acc
      skipBlanks
      match ← peek with
      | none => throw "unclosed class"
      | some '[' =>
        match ← readNamedClass with
        | some s => body fuel pending (.union acc s)
        | none => body fuel pending (.union acc (← readClass fuel))
      | some ']' => bump; return close acc
      | some c =>
        if (c == '&' || c == '-' || c == '~') && (← peekSecond) == some c then
          bump
          bump
          let op : ClassOp := if c == '&' then .inter else if c == '-' then .diff else .symmDiff
          body fuel (some (close acc, op)) .none
        else body fuel pending (.union acc (← readClassItem))

/-- A number in braces. -/
def readCount : Reader (Option Nat) := do
  let blank (c : Char) : Bool := Text.isSpace c.toNat
  let _ ← takeWhile blank
  let digits ← takeWhile Char.isDigit
  let _ ← takeWhile blank
  match Text.ofDigits? 10 Text.digit? digits with
  | none => return none
  | some n => if n < 0x100000000 then return some n else throw "number too large"

/-- The bounds in braces, after the opening one. -/
def readBounds : Reader (Nat × Option Nat) := do
  let low ← readCount
  if (← peek).isNone then throw "unclosed repetition"
  let bounds ← match low with
    | none => throw "repetition without a number"
    | some low =>
      if ← accept "," then
        if (← peek) == some '\x7d' then pure (low, none)
        else
          match ← readCount with
          | some high => pure (low, some high)
          | none => throw "repetition without a number"
      else pure (low, some low)
  unless ← accept "\x7d" do throw "unclosed repetition"
  return bounds

/-- The flags after an opening parenthesis and a question mark. -/
def readFlags : Nat → Flags → Bool → List Char → Bool → Reader (Flags × Bool)
  | 0, _, _, _, _ => throw "nested too deeply"
  | fuel + 1, flags, on, seen, dangling => do
    match ← peek with
    | none => throw "unclosed flags"
    | some c =>
      if c == ':' || c == ')' then
        if dangling then throw "dangling minus"
        return (flags, seen.isEmpty && on)
      bump
      if c == '-' then
        if !on then throw "second minus"
        readFlags fuel flags false seen true
      else
        if seen.contains c then throw "repeated flag"
        let flags ← match c with
          | 'i' => pure { flags with ignoreCase := on }
          | 'm' => pure { flags with multiLine := on }
          | 's' => pure { flags with dotMatchesNewline := on }
          | 'U' => pure { flags with swapGreed := on }
          | 'u' => pure { flags with unicode := on }
          | 'R' => pure { flags with crlf := on }
          | 'x' => pure { flags with ignoreBlanks := on }
          | _ => throw "unknown flag"
        readFlags fuel flags on (c :: seen) false

/-- The name of a group, up to the closing angle bracket. -/
def readGroupName : Reader String := do
  let name ← takeWhile (· != '>')
  unless ← accept ">" do throw "unclosed group name"
  match name with
  | [] => throw "empty group name"
  | c :: more =>
    let alphabetic (c : Char) : Bool := Text.isAlphabetic c.toNat
    let inner (c : Char) : Bool :=
      alphabetic c || c == '_' || c == '.' || c == '[' || c == ']' ||
      Text.Category.of c = .nd || Text.Category.of c = .no
    unless alphabetic c || c == '_' do throw "bad group name"
    unless more.all inner do throw "bad group name"
    let name := String.ofList name
    if (← get).groups.contains (some name) then throw "repeated group name"
    return name

/-- What has been read of a sequence: its parts, the latest first; none for one that cannot be
repeated. -/
abbrev Parts := List (Option Node)

/-- The parts as one expression. -/
def Parts.toNode (parts : Parts) : Node := Node.cats (parts.reverse.filterMap id)

/-- Repeats the latest part. -/
def repeatLast (parts : Parts) (low : Nat) (high : Option Nat) : Reader Parts := do
  let lazily ← accept "?"
  let greedy := lazily == (← get).flags.swapGreed
  match parts with
  | some n :: more => return some (.rep low high greedy n) :: more
  | _ => throw "nothing to repeat"

/-- The place that `^` stands for. -/
def lineStart (flags : Flags) : Look :=
  if !flags.multiLine then .start else if flags.crlf then .lineStartCrlf else .lineStart

/-- The place that `$` stands for. -/
def lineFinish (flags : Flags) : Look :=
  if !flags.multiLine then .finish else if flags.crlf then .lineFinishCrlf else .lineFinish

/-- What `.` stands for. -/
def anything (flags : Flags) : CharSet :=
  if flags.dotMatchesNewline then .compl .none
  else if flags.crlf then .compl (.union (.single 0x0A) (.single 0x0D))
  else .compl (.single 0x0A)

/-- A group that is captured, from what is read inside it up to the parenthesis that closes it. -/
def readGroup (inside : Reader Node) (name : Option String) : Reader Node := do
  let s ← get
  let index := s.groups.length + 1
  set { s with groups := name :: s.groups }
  let n ← inside
  unless ← accept ")" do throw "unclosed group"
  modify fun t => { t with flags := s.flags }
  return .group index n

/-- Alternatives, up to the end or the parenthesis that closes the group around them: `parts` is
what has been read of the first of them. -/
def readAlternatives : Nat → Parts → Reader Node
  | 0, _ => throw "nested too deeply"
  | fuel + 1, parts => do
    skipBlanks
    let flags := (← get).flags
    let push (n : Node) : Reader Node := readAlternatives fuel (some n :: parts)
    match ← peek with
    | none => return parts.toNode
    | some c =>
      match c with
      | ')' => return parts.toNode
      | '|' =>
        bump
        return .alt parts.toNode (← readAlternatives fuel [])
      | '[' => push (setNode flags (← readClass fuel))
      | '*' => bump; readAlternatives fuel (← repeatLast parts 0 none)
      | '+' => bump; readAlternatives fuel (← repeatLast parts 1 none)
      | '?' => bump; readAlternatives fuel (← repeatLast parts 0 (some 1))
      | '\x7b' =>
        bump
        let (low, high) ← readBounds
        let parts ← repeatLast parts low high
        if high.any (· < low) then throw "repetition bounds run backwards"
        readAlternatives fuel parts
      | '.' => bump; push (setNode flags (anything flags))
      | '^' => bump; push (.look (lineStart flags))
      | '$' => bump; push (.look (lineFinish flags))
      | '\\' =>
        bump
        match ← readEscape with
        | .literal n => push (literalNode flags n)
        | .coded n =>
          if !flags.unicode && n ≤ 0xFF && 0x7F < n then push (.byte (.single n))
          else push (literalNode flags n)
        | .set s => push (setNode flags s)
        | .look l => push (.look l)
      | '(' =>
        bump
        skipBlanks
        for lookaround in ["?=", "?!", "?<=", "?<!"] do
          if ← accept lookaround then throw "no look-around"
        let named ← (do if ← accept "?P<" then pure true else accept "?<")
        if named then
          let name ← readGroupName
          push (← readGroup (readAlternatives fuel []) (some name))
        else if ← accept "?" then
          let (inner, none?) ← readFlags fuel flags true [] false
          let closing ← next "unclosed group"
          if closing == ')' then
            if none? then throw "nothing to repeat"
            modify fun s => { s with flags := inner }
            readAlternatives fuel (none :: parts)
          else
            modify fun s => { s with flags := inner }
            let n ← readAlternatives fuel []
            unless ← accept ")" do throw "unclosed group"
            modify fun s => { s with flags := flags }
            push n
        else push (← readGroup (readAlternatives fuel []) none)
      | c => bump; push (literalNode flags c.toNat)
/-- A regular expression that was read: its written form, its parts, and the names of its groups, in
order. -/
structure Parsed where
  source : String
  node : Node
  names : List (Nat × String)
  deriving DecidableEq, Repr

/-- How many steps an expression may unfold to. -/
def weightLimit : Nat := 300000

/-- Reads a regular expression. -/
def read (source : String) : Except String Parsed := do
  let cs := source.toList
  let (node, s) ← (readAlternatives (2 * cs.length + 4) []).run ⟨cs, {}, []⟩
  unless s.rest.isEmpty do throw "unopened group"
  if weightLimit < node.weight then throw "expression is too large"
  let names := s.groups.reverse.zipIdx.filterMap fun (name, i) => name.map fun n => (i + 1, n)
  return ⟨source, node, names⟩

end BoardBench.Regex
