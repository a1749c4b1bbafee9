import BoardBench.Sim.Shell.Basic
import BoardBench.Text.Numeral

/-!
# Reading shell scripts

A script is read from its characters. What is not understood ends the reading, with what was read
before it.
-/

namespace BoardBench.Sim.Shell

/-- Whether a character can stand in the name of a variable. -/
def isNameChar (c : Char) : Bool := c.isAlphanum || c == '_'

/-- Whether a character ends a word. -/
def endsWord (c : Char) : Bool :=
  c == ' ' || c == '\t' || c == '\n' || c == ';' || c == '&' || c == '|' || c == '(' || c == ')' ||
    c == '<' || c == '>'

/-- What follows blanks, joined lines and comments. -/
def skipBlanks : Nat → List Char → List Char
  | 0, cs => cs
  | fuel + 1, cs =>
    match cs with
    | '\\' :: '\n' :: rest => skipBlanks fuel rest
    | ' ' :: rest => skipBlanks fuel rest
    | '\t' :: rest => skipBlanks fuel rest
    | '#' :: rest => rest.dropWhile (· != '\n')
    | cs => cs

/-- What follows blanks, line ends and semicolons. -/
def skipBreaks : Nat → List Char → List Char
  | 0, cs => cs
  | fuel + 1, cs =>
    match skipBlanks (cs.length + 1) cs with
    | '\n' :: rest => skipBreaks fuel rest
    | ';' :: ';' :: rest => ';' :: ';' :: rest
    | ';' :: rest => skipBreaks fuel rest
    | cs => cs

/-- The byte of an escape sequence, and what follows it; `cs` begins after the backslash. -/
def escape (cs : List Char) : Bytes × List Char :=
  match cs with
  | 'n' :: rest => ([0x0A], rest)
  | 'r' :: rest => ([0x0D], rest)
  | 't' :: rest => ([0x09], rest)
  | 'a' :: rest => ([0x07], rest)
  | 'b' :: rest => ([0x08], rest)
  | 'e' :: rest => ([0x1B], rest)
  | '\\' :: rest => ([0x5C], rest)
  | '\'' :: rest => ([0x27], rest)
  | '"' :: rest => ([0x22], rest)
  | 'x' :: rest =>
    let digits := (rest.take 2).takeWhile fun c => (Text.hexDigit? c).isSome
    match Text.ofDigits? 16 Text.hexDigit? digits with
    | some n => ([n.toUInt8], rest.drop digits.length)
    | none => (Bytes.ofText "\\x", rest)
  | c :: rest =>
    let digits := (cs.take 3).takeWhile fun c => '0' ≤ c && c ≤ '7'
    match Text.ofDigits? 8 Text.digit? digits with
    | some n => ([n.toUInt8], cs.drop digits.length)
    | none => (0x5C :: Bytes.ofText c.toString, rest)
  | [] => ([0x5C], [])

/-- A reference to a variable, after the dollar sign. -/
def reference (cs : List Char) : Piece × List Char :=
  match cs with
  | '\x7b' :: rest =>
    (.variable (String.ofList (rest.takeWhile (· != '\x7d'))), (rest.dropWhile (· != '\x7d')).drop 1)
  | c :: rest =>
    if c == '@' || c == '$' || c == '?' || c == '*' || c == '#' || c.isDigit then
      (.variable c.toString, rest)
    else if isNameChar c then
      (.variable (String.ofList (cs.takeWhile isNameChar)), cs.dropWhile isNameChar)
    else (.text [0x24], cs)
  | [] => (.text [0x24], [])

/-- The rest of a text in double quotes; `acc` holds its pieces so far, the latest first. -/
def doubleQuoted : Nat → Word → List Char → Word × List Char
  | 0, acc, cs => (acc, cs)
  | fuel + 1, acc, cs =>
    match cs with
    | [] => (acc, [])
    | '"' :: rest => (acc, rest)
    | '\\' :: '\n' :: rest => doubleQuoted fuel acc rest
    | '\\' :: c :: rest =>
      if c == '"' || c == '\\' || c == '$' then doubleQuoted fuel (.text (Bytes.ofText c.toString) :: acc) rest
      else doubleQuoted fuel (.text (0x5C :: Bytes.ofText c.toString) :: acc) rest
    | '$' :: rest =>
      let (piece, rest) := reference rest
      doubleQuoted fuel (piece :: acc) rest
    | c :: rest => doubleQuoted fuel (.text (Bytes.ofText c.toString) :: acc) rest

/-- The rest of a text with escape sequences. -/
def escapeQuoted : Nat → Bytes → List Char → Bytes × List Char
  | 0, acc, cs => (acc, cs)
  | fuel + 1, acc, cs =>
    match cs with
    | [] => (acc, [])
    | '\'' :: rest => (acc, rest)
    | '\\' :: rest =>
      let (bytes, rest) := escape rest
      escapeQuoted fuel (acc ++ bytes) rest
    | c :: rest => escapeQuoted fuel (acc ++ Bytes.ofText c.toString) rest

/-- A word; `acc` holds its pieces so far, the latest first. -/
def readWord : Nat → Word → List Char → Word × List Char
  | 0, acc, cs => (acc.reverse, cs)
  | fuel + 1, acc, cs =>
    match cs with
    | [] => (acc.reverse, [])
    | '\'' :: rest =>
      readWord fuel (.text (Bytes.ofText (String.ofList (rest.takeWhile (· != '\'')))) :: acc)
        ((rest.dropWhile (· != '\'')).drop 1)
    | '"' :: rest =>
      let (pieces, rest) := doubleQuoted (rest.length + 1) (.text [] :: acc) rest
      readWord fuel pieces rest
    | '$' :: '\'' :: rest =>
      let (bytes, rest) := escapeQuoted (rest.length + 1) [] rest
      readWord fuel (.text bytes :: acc) rest
    | '$' :: rest =>
      let (piece, rest) := reference rest
      readWord fuel (piece :: acc) rest
    | '\\' :: '\n' :: rest => readWord fuel acc rest
    | '\\' :: c :: rest => readWord fuel (.text (Bytes.ofText c.toString) :: acc) rest
    | '*' :: rest => readWord fuel (.star :: acc) rest
    | '?' :: rest => readWord fuel (.one :: acc) rest
    | c :: rest =>
      if endsWord c then (acc.reverse, c :: rest)
      else readWord fuel (.text (Bytes.ofText c.toString) :: acc) rest

/-- The text of a word that has no variables. -/
def plainText? (w : Word) : Option Bytes :=
  w.foldl (fun acc p => match acc, p with
    | some acc, .text bytes => some (acc ++ bytes)
    | _, _ => none) (some [])

/-- The words of a simple command, and the file for its output. -/
def readWords : Nat → List Word → Option Word → List Char → List Word × Option Word × List Char
  | 0, acc, out, cs => (acc.reverse, out, cs)
  | fuel + 1, acc, out, cs =>
    match skipBlanks (cs.length + 1) cs with
    | '>' :: '&' :: rest => readWords fuel acc out (rest.dropWhile Char.isDigit)
    | '>' :: rest =>
      let (word, rest) := readWord (rest.length + 1) [] (skipBlanks (rest.length + 1) rest)
      readWords fuel acc (some word) rest
    | [] => (acc.reverse, out, [])
    | c :: rest =>
      if endsWord c then (acc.reverse, out, c :: rest)
      else
        let (word, after) := readWord (rest.length + 2) [] (c :: rest)
        match after, plainText? word with
        | '>' :: _, some bytes =>
          -- a number right before the arrow names a stream
          if bytes.all (fun b => 0x30 ≤ b && b ≤ 0x39) then readWords fuel acc out after
          else readWords fuel (word :: acc) out after
        | _, _ => readWords fuel (word :: acc) out after

/-- Whether the text begins with a keyword, and what follows it. -/
def keyword? (word : String) (cs : List Char) : Option (List Char) :=
  let w := word.toList
  if w.isPrefixOf cs then
    let rest := cs.drop w.length
    match rest with
    | [] => some []
    | c :: _ => if endsWord c then some rest else none
  else none

/-- The words of a pattern list up to its closing bracket. -/
def readPatterns : Nat → List Word → List Char → List Word × List Char
  | 0, acc, cs => (acc.reverse, cs)
  | fuel + 1, acc, cs =>
    let (word, rest) := readWord (cs.length + 1) [] (skipBlanks (cs.length + 1) cs)
    match skipBlanks (rest.length + 1) rest with
    | '|' :: rest => readPatterns fuel (word :: acc) rest
    | ')' :: rest => ((word :: acc).reverse, rest)
    | rest => ((word :: acc).reverse, rest)

/-- Whether the text stands at the end of a list of commands. -/
def atListEnd (cs : List Char) : Bool :=
  cs.isEmpty || (keyword? "do" cs).isSome || (keyword? "done" cs).isSome || (keyword? "esac" cs).isSome ||
    [';', ';'].isPrefixOf cs

mutual

/-- Commands up to the end of their list; `acc` holds those before, the latest first. -/
def readList : Nat → List Command → List Char → List Command × List Char
  | 0, acc, cs => (acc.reverse, cs)
  | fuel + 1, acc, cs =>
    let cs := skipBreaks (cs.length + 1) cs
    if atListEnd cs then (acc.reverse, cs)
    else
      match readCommand fuel cs with
      | some (c, rest) => readList fuel (c :: acc) rest
      | none => (acc.reverse, [])

/-- One command. -/
def readCommand : Nat → List Char → Option (Command × List Char)
  | 0, _ => none
  | fuel + 1, cs =>
    match keyword? "while" cs with
    | some rest =>
      let (test, rest) := readList fuel [] rest
      match keyword? "do" rest with
      | none => none
      | some rest =>
        let (body, rest) := readList fuel [] rest
        (keyword? "done" rest).map fun rest => (.loop test body, rest)
    | none =>
      match keyword? "case" cs with
      | some rest =>
        let (subject, rest) := readWord (rest.length + 1) [] (skipBlanks (rest.length + 1) rest)
        match keyword? "in" (skipBreaks (rest.length + 1) rest) with
        | none => none
        | some rest =>
          let (arms, rest) := readArms fuel [] rest
          some (.choice subject arms, rest)
      | none =>
        let (words, out, rest) := readWords (cs.length + 1) [] none cs
        if words.isEmpty then none
        else
          match rest with
          | '&' :: rest => some (.simple words out true, rest)
          | rest => some (.simple words out false, rest)

/-- The arms of a choice up to its end. -/
def readArms : Nat → List (List Word × List Command) → List Char →
    List (List Word × List Command) × List Char
  | 0, acc, cs => (acc.reverse, cs)
  | fuel + 1, acc, cs =>
    let cs := skipBreaks (cs.length + 1) cs
    match keyword? "esac" cs with
    | some rest => (acc.reverse, rest)
    | none =>
      if cs.isEmpty then (acc.reverse, [])
      else
        let (patterns, rest) := readPatterns (cs.length + 1) [] cs
        let (body, rest) := readList fuel [] rest
        let rest := match rest with
          | ';' :: ';' :: rest => rest
          | rest => rest
        readArms fuel ((patterns, body) :: acc) rest

end

/-- Reads a script. -/
def read (script : String) : List Command :=
  let cs := script.toList
  (readList (2 * cs.length + 2) [] cs).1

end BoardBench.Sim.Shell
