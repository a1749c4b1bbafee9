import BoardBench.Json.Basic
import BoardBench.Text.Numeral

/-!
# Reading JSON

`Json.read?` reads a whole text as one value, and gives none if it is not one.
-/

namespace BoardBench.Json

/-- The text without the blanks in front. -/
def skipBlanks (cs : List Char) : List Char :=
  cs.dropWhile fun c => c == ' ' || c == '\n' || c == '\r' || c == '\t'

/-- The number that four hexadecimal digits stand for, and what follows them. -/
def readUnit : List Char → Option (Nat × List Char)
  | a :: b :: c :: d :: rest => (Text.ofDigits? 16 Text.hexDigit? [a, b, c, d]).map (·, rest)
  | _ => none

/-- The character of a pair of surrogate units. -/
def joinSurrogates (high low : Nat) : Char :=
  Char.ofNat (0x10000 + (high - 0xD800) * 0x400 + (low - 0xDC00))

/-- The rest of a text after its opening quote; `acc` is what was read of it, the latest first. -/
def readText : Nat → List Char → List Char → Option (String × List Char)
  | 0, _, _ => none
  | _ + 1, _, [] => none
  | fuel + 1, acc, c :: rest =>
    match c, rest with
    | '"', rest => some (String.ofList acc.reverse, rest)
    | '\\', 'u' :: more =>
      match readUnit more with
      | none => none
      | some (u, more) =>
        if 0xD800 ≤ u && u < 0xDC00 then
          match more with
          | '\\' :: 'u' :: more =>
            match readUnit more with
            | some (v, more) =>
              if 0xDC00 ≤ v && v < 0xE000 then readText fuel (joinSurrogates u v :: acc) more
              else none
            | none => none
          | _ => none
        else if 0xDC00 ≤ u && u < 0xE000 then none
        else readText fuel (Char.ofNat u :: acc) more
    | '\\', e :: more =>
      let plain : Option Char := match e with
        | '"' => some '"'
        | '\\' => some '\\'
        | '/' => some '/'
        | 'b' => some (Char.ofNat 8)
        | 'f' => some (Char.ofNat 12)
        | 'n' => some '\n'
        | 'r' => some '\r'
        | 't' => some '\t'
        | _ => none
      match plain with
      | some p => readText fuel (p :: acc) more
      | none => none
    | '\\', [] => none
    | c, rest => if c.toNat < 0x20 then none else readText fuel (c :: acc) rest

/-- A number, whose sign has been read. -/
def readNumber (negative : Bool) (cs : List Char) : Option (Json × List Char) :=
  let whole := cs.takeWhile Char.isDigit
  let rest := cs.dropWhile Char.isDigit
  if whole.isEmpty || (whole.head? == some '0' && whole.length != 1) then none
  else
    let (places, rest, dotted) := match rest with
      | '.' :: more => (more.takeWhile Char.isDigit, more.dropWhile Char.isDigit, true)
      | rest => ([], rest, false)
    if dotted && places.isEmpty then none
    else
      let number := (Text.ofDigits? 10 Text.digit? (whole ++ places)).getD 0
      let shift : Int := -(places.length : Int)
      match rest with
      | e :: more =>
        if e == 'e' || e == 'E' then
          let (down, more) := match more with
            | '-' :: m => (true, m)
            | '+' :: m => (false, m)
            | m => (false, m)
          let digits := more.takeWhile Char.isDigit
          match Text.ofDigits? 10 Text.digit? digits with
          | some n =>
            let power : Int := if down then -(n : Int) else n
            some (decimal negative number (shift + power), more.dropWhile Char.isDigit)
          | none => none
        else if dotted then some (decimal negative number shift, rest)
        else some (whole_ negative number, rest)
      | [] => if dotted then some (decimal negative number shift, []) else some (whole_ negative number, [])
where
  /-- A number without fraction and exponent; a negative zero is not a whole number. -/
  whole_ (negative : Bool) (n : Nat) : Json :=
    if negative then (if n == 0 then decimal true 0 0 else int (-(n : Int))) else int n

mutual

/-- A value, and what follows it. -/
def readValue : Nat → List Char → Option (Json × List Char)
  | 0, _ => none
  | fuel + 1, cs =>
    match skipBlanks cs with
    | 'n' :: 'u' :: 'l' :: 'l' :: rest => some (null, rest)
    | 't' :: 'r' :: 'u' :: 'e' :: rest => some (bool true, rest)
    | 'f' :: 'a' :: 'l' :: 's' :: 'e' :: rest => some (bool false, rest)
    | '"' :: rest => (readText (rest.length + 1) [] rest).map fun (s, rest) => (str s, rest)
    | '-' :: rest => readNumber true rest
    | '[' :: rest =>
      match skipBlanks rest with
      | ']' :: rest => some (arr [], rest)
      | _ => readItems fuel [] rest
    | '\x7b' :: rest =>
      match skipBlanks rest with
      | '\x7d' :: rest => some (obj [], rest)
      | _ => readMembers fuel [] rest
    | cs => readNumber false cs

/-- The items of a list from the next one on; `acc` holds those before, the latest first. -/
def readItems : Nat → List Json → List Char → Option (Json × List Char)
  | 0, _, _ => none
  | fuel + 1, acc, cs =>
    match readValue fuel cs with
    | none => none
    | some (v, rest) =>
      match skipBlanks rest with
      | ',' :: rest => readItems fuel (v :: acc) rest
      | ']' :: rest => some (arr (v :: acc).reverse, rest)
      | _ => none

/-- The members of an object from the next one on; `acc` holds those before, the latest first. -/
def readMembers : Nat → List (String × Json) → List Char → Option (Json × List Char)
  | 0, _, _ => none
  | fuel + 1, acc, cs =>
    match skipBlanks cs with
    | '"' :: rest =>
      match readText (rest.length + 1) [] rest with
      | none => none
      | some (k, rest) =>
        match skipBlanks rest with
        | ':' :: rest =>
          match readValue fuel rest with
          | none => none
          | some (v, rest) =>
            match skipBlanks rest with
            | ',' :: rest => readMembers fuel ((k, v) :: acc) rest
            | '\x7d' :: rest => some (obj ((k, v) :: acc).reverse, rest)
            | _ => none
        | _ => none
    | _ => none

end

/-- Reads a whole text as one value. -/
def read? (s : String) : Option Json :=
  let cs := s.toList
  match readValue (2 * cs.length + 2) cs with
  | some (j, rest) => if (skipBlanks rest).isEmpty then some j else none
  | none => none

end BoardBench.Json
