import BoardBench.Toml.Scalar
import BoardBench.Toml.Table

/-!
# Option (configuration × List Char) texts

A configuration text is read line by line: headers open tables, and assignments fill the table that was
opened last. `Toml.read?` gives the whole text as a value, and none if anything in it is wrong.
-/

namespace BoardBench.Toml

/-- Values and keys are not nested as deep as this. -/
def depthLimit : Nat := 80

/-- What follows the comment that a text begins with, if it begins with one. -/
def skipComment : List Char → List Char
  | '#' :: rest => rest.dropWhile isPlain
  | cs => cs

/-- Skips blanks, line breaks and comments. -/
def skipLayout : Nat → List Char → List Char
  | 0, cs => cs
  | fuel + 1, cs =>
    match skipBlankLines cs with
    | '#' :: rest =>
      match afterBreak? (rest.dropWhile isPlain) with
      | some more => skipLayout fuel more
      | none => rest.dropWhile isPlain
    | cs => cs

/-- Whether a character may stand in a key without quotes. -/
def isBare (c : Char) : Bool := c.isAlphanum || c == '_' || c == '-'

/-- One step of a key. -/
def readStep (cs : List Char) : Option (String × List Char) :=
  match cs with
  | '"' :: _ => readShortString cs
  | '\'' :: _ => readShortString cs
  | cs =>
    let name := cs.takeWhile isBare
    if name.isEmpty then none else some (String.ofList name, cs.dropWhile isBare)

/-- A key: steps with dots between them. -/
def readKey : Nat → List Char → Option ((List String) × List Char)
  | 0, _ => none
  | fuel + 1, cs => do
    let (step, rest) ← readStep (skipBlanks cs)
    match skipBlanks rest with
    | '.' :: more =>
      let (steps, rest) ← readKey fuel more
      return (step :: steps, rest)
    | rest => return ([step], rest)

mutual

/-- A value, nested in `depth` others. -/
def readValue : Nat → Nat → List Char → Option (Json × List Char)
  | 0, _, _ => none
  | fuel + 1, depth, cs =>
    match cs with
    | '"' :: _ => (readString cs).map fun (s, rest) => (.str s, rest)
    | '\'' :: _ => (readString cs).map fun (s, rest) => (.str s, rest)
    | '[' :: rest =>
      if depthLimit ≤ depth + 1 then none else readItems fuel (depth + 1) [] rest
    | '\x7b' :: rest =>
      if depthLimit ≤ depth + 1 then none
      else
        match skipBlanks rest with
        | '\x7d' :: rest => some (.obj [], rest)
        | rest => readPairs fuel (depth + 1) (.emptyTable false false) rest
    | cs => readPlainScalar cs

/-- The items of a list from the next one on; `acc` holds those before, the latest first. -/
def readItems : Nat → Nat → List Json → List Char → Option (Json × List Char)
  | 0, _, _, _ => none
  | fuel + 1, depth, acc, cs =>
    match skipLayout cs.length cs with
    | ']' :: rest => some (.arr acc.reverse, rest)
    | cs =>
      match readValue fuel depth cs with
      | none => none
      | some (j, rest) =>
        match skipLayout rest.length rest with
        | ',' :: rest => readItems fuel depth (j :: acc) rest
        | ']' :: rest => some (.arr (j :: acc).reverse, rest)
        | _ => none

/-- The assignments of a table on one line. -/
def readPairs : Nat → Nat → Node → List Char → Option (Json × List Char)
  | 0, _, _, _ => none
  | fuel + 1, depth, table, cs =>
    match readAssignment fuel depth table cs with
    | none => none
    | some (table, rest) =>
      match skipBlanks rest with
      | ',' :: rest => readPairs fuel depth table rest
      | '\x7d' :: rest => some (table.toJson, rest)
      | _ => none

/-- An assignment, done in a table. -/
def readAssignment : Nat → Nat → Node → List Char → Option (Node × List Char)
  | 0, _, _, _ => none
  | fuel + 1, depth, table, cs => do
    let (keys, rest) ← readKey (depthLimit - 1) cs
    let (path, key) ← Node.splitLast keys
    let rest ← after? '=' rest
    match readValue fuel depth (skipBlanks rest) with
    | none => none
    | some (j, rest) => return (← table.assign path key j, rest)

end

/-- The text from its next line on, once a line is at its end. -/
def endLine? (cs : List Char) : Option (List Char) :=
  match skipComment (skipBlanks cs) with
  | [] => some []
  | rest => afterBreak? rest

/-- A header: whether it is one of a list, and its keys. -/
def readHeader : List Char → Option ((Bool × List String) × List Char)
  | '[' :: '[' :: rest => do
    let (keys, rest) ← readKey (depthLimit - 1) rest
    return ((true, keys), ← after? ']' (← after? ']' rest))
  | '[' :: rest => do
    let (keys, rest) ← readKey (depthLimit - 1) rest
    return ((false, keys), ← after? ']' rest)
  | _ => none

/-- The lines of a text, whose tables so far are in `root`; `path` is the table that was opened last. -/
def readBody : Nat → List String → Node → List Char → Option Node
  | 0, _, root, cs => if cs.isEmpty then some root else none
  | fuel + 1, path, root, cs =>
    match skipBlanks cs with
    | [] => some root
    | '[' :: rest => do
      let ((listed, keys), rest) ← readHeader ('[' :: rest)
      let root ← if listed then Node.openListed keys root else Node.openTable keys root
      readBody fuel keys root (← endLine? rest)
    | c :: rest =>
      if c == '#' || c == '\n' || c == '\r' then do readBody fuel path root (← endLine? (c :: rest))
      else do
        let (keys, rest) ← readKey (depthLimit - 1) (c :: rest)
        let (inner, key) ← Node.splitLast keys
        let (j, rest) ← readValue (2 * rest.length + 2) 0 (skipBlanks (← after? '=' rest))
        let root ← Node.update false (Node.assign inner key j) path root
        readBody fuel path root (← endLine? rest)

/-- Reads a whole text. -/
def read? (s : String) : Option Json :=
  let cs := match s.toList with
    | '\uFEFF' :: rest => rest
    | cs => cs
  (readBody (cs.length + 1) [] (.emptyTable false false) cs).map Node.toJson

end BoardBench.Toml
