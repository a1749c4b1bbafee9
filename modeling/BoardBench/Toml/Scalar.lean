import BoardBench.Json.Basic
import BoardBench.Text.Numeral

/-!
# Scalars of configuration texts

Strings in their four spellings, numbers, truth values and moments of time. Each reader takes the
characters from where the scalar begins, and gives its value with what follows it. A moment of time
becomes an object with one member.
-/

namespace BoardBench.Toml

def isBlank (c : Char) : Bool := c == ' ' || c == '\t'

def skipBlanks (cs : List Char) : List Char := cs.dropWhile isBlank

/-- Whether a character may stand in comments and strings: no control character but the tab. -/
def isPlain (c : Char) : Bool := c == '\t' || (0x20 ≤ c.toNat && c.toNat != 0x7F)

/-- The rest of a text after a line break, if it begins with one. -/
def afterBreak? : List Char → Option (List Char)
  | '\n' :: rest => some rest
  | '\r' :: '\n' :: rest => some rest
  | _ => none

/-- The rest of a text after a line break, or the text. -/
def skipBreak (cs : List Char) : List Char := (afterBreak? cs).getD cs

/-- Skips blanks and line breaks. -/
def skipBlankLines : List Char → List Char
  | '\n' :: rest => skipBlankLines rest
  | '\r' :: '\n' :: rest => skipBlankLines rest
  | c :: rest => if isBlank c then skipBlankLines rest else c :: rest
  | [] => []

/-! ## Strings -/

/-- The character of a code. -/
def coded? (digits : List Char) : Option Char := do
  let n ← Text.ofDigits? 16 Text.hexDigit? digits
  if n.isValidChar then some (Char.ofNat n) else none

/-- What follows a backslash in a string. -/
def readEscape : List Char → Option (Char × List Char)
  | 'b' :: rest => some (Char.ofNat 8, rest)
  | 't' :: rest => some ('\t', rest)
  | 'n' :: rest => some ('\n', rest)
  | 'f' :: rest => some (Char.ofNat 12, rest)
  | 'r' :: rest => some ('\r', rest)
  | '"' :: rest => some ('"', rest)
  | '\\' :: rest => some ('\\', rest)
  | 'u' :: rest =>
    if rest.length < 4 then none else (coded? (rest.take 4)).map (·, rest.drop 4)
  | 'U' :: rest =>
    if rest.length < 8 then none else (coded? (rest.take 8)).map (·, rest.drop 8)
  | _ => none

/-- The rest of a string on one line; `acc` is what was read of it, the latest first. -/
def readLine (quote : Char) (escapes : Bool) : Nat → List Char → List Char → Option (String × List Char)
  | 0, _, _ => none
  | _ + 1, _, [] => none
  | fuel + 1, acc, c :: rest =>
    if c == quote then some (String.ofList acc.reverse, rest)
    else if escapes && c == '\\' then
      match readEscape rest with
      | some (e, rest) => readLine quote escapes fuel (e :: acc) rest
      | none => none
    else if isPlain c then readLine quote escapes fuel (c :: acc) rest
    else none

/-- The rest of a string over several lines. Of the quotes in which it ends the last three close it. -/
def readLines (quote : Char) (escapes : Bool) : Nat → List Char → List Char → Option (String × List Char)
  | 0, _, _ => none
  | _ + 1, _, [] => none
  | fuel + 1, acc, c :: rest =>
    if c == quote then
      let run := (c :: rest).takeWhile (· == quote)
      if run.length < 3 then readLines quote escapes fuel (c :: acc) rest
      else
        let own := min (run.length - 3) 2
        some (String.ofList ((List.replicate own quote ++ acc).reverse), (c :: rest).drop (own + 3))
    else if escapes && c == '\\' then
      match afterBreak? (skipBlanks rest) with
      | some more => readLines quote escapes fuel acc (skipBlankLines more)
      | none =>
        match readEscape rest with
        | some (e, rest) => readLines quote escapes fuel (e :: acc) rest
        | none => none
    else
      match afterBreak? (c :: rest) with
      | some more => readLines quote escapes fuel ('\n' :: acc) more
      | none => if isPlain c then readLines quote escapes fuel (c :: acc) rest else none

/-- A string on one line. -/
def readShortString : List Char → Option (String × List Char)
  | '"' :: rest => readLine '"' true (rest.length + 1) [] rest
  | '\'' :: rest => readLine '\'' false (rest.length + 1) [] rest
  | _ => none

/-- A string. A line break right after its opening is no part of it. -/
def readString : List Char → Option (String × List Char)
  | '"' :: '"' :: '"' :: rest => readLines '"' true (rest.length + 1) [] (skipBreak rest)
  | '\'' :: '\'' :: '\'' :: rest => readLines '\'' false (rest.length + 1) [] (skipBreak rest)
  | cs => readShortString cs

/-! ## Numbers -/

/-- Digits, with single underscores between them. -/
def readDigits (isDigit : Char → Bool) : List Char → Option ((List Char) × List Char)
  | [] => none
  | c :: rest => if isDigit c then some (more isDigit [c] rest) else none
where
  /-- The digits that follow others, which are in `acc`, the latest first. -/
  more (isDigit : Char → Bool) (acc : List Char) : List Char → List Char × List Char
    | '_' :: d :: rest => if isDigit d then more isDigit (d :: acc) rest else (acc.reverse, '_' :: d :: rest)
    | d :: rest => if isDigit d then more isDigit (d :: acc) rest else (acc.reverse, d :: rest)
    | [] => (acc.reverse, [])

/-- A sign, true for minus. -/
def readSign : List Char → Bool × List Char
  | '-' :: rest => (true, rest)
  | '+' :: rest => (false, rest)
  | cs => (false, cs)

/-- Decimal digits without a zero in front of others. -/
def readWhole (cs : List Char) : Option ((List Char) × List Char) :=
  match cs with
  | '0' :: rest => some (['0'], rest)
  | cs => readDigits Char.isDigit cs

/-- The number of decimal digits. -/
def decimal (digits : List Char) : Nat := (Text.ofDigits? 10 Text.digit? digits).getD 0

/-- The digits after a point. -/
def readPlaces : List Char → Option ((List Char) × List Char)
  | '.' :: rest => readDigits Char.isDigit rest
  | _ => none

/-- An exponent. -/
def readExponent : List Char → Option (Int × List Char)
  | c :: rest =>
    if c == 'e' || c == 'E' then
      let (down, rest) := readSign rest
      (readDigits Char.isDigit rest).map fun (digits, rest) =>
        (if down then -(decimal digits : Int) else decimal digits, rest)
    else none
  | [] => none

/-- A number that is larger than any float. -/
def hugeNumber (negative : Bool) : Json := .decimal negative 1 400

/-- The least number that is nearer to infinity than to any float. -/
def infinityBound : Nat := Nat.pow 2 1024 - Nat.pow 2 970

/-- Whether a number above zero is so large that the float nearest to it is infinity. -/
def isInfinite (mantissa : Nat) (exponent : Int) : Bool :=
  let size := Json.magnitude mantissa exponent
  if mantissa = 0 || size < 309 then false
  else if 309 < size then true
  else
    match exponent with
    | .ofNat k => infinityBound ≤ mantissa * Nat.pow 10 k
    | .negSucc k => infinityBound * Nat.pow 10 (k + 1) ≤ mantissa

/-- A written number; one above zero may not be as large as infinity. -/
def finite? (negative : Bool) (mantissa : Nat) (exponent : Int) : Option Json :=
  if !negative && isInfinite mantissa exponent then none else some (.decimal negative mantissa exponent)

/-- A number with a point, an exponent or both; infinity and no number are huge. -/
def readFloat (cs : List Char) : Option (Json × List Char) :=
  let (negative, rest) := readSign cs
  match rest with
  | 'i' :: 'n' :: 'f' :: rest => some (hugeNumber negative, rest)
  | 'n' :: 'a' :: 'n' :: rest => some (hugeNumber negative, rest)
  | rest => do
    let (whole, rest) ← readWhole rest
    match readPlaces rest with
    | some (places, rest) =>
      let (power, rest) := (readExponent rest).getD (0, rest)
      return (← finite? negative (decimal (whole ++ places)) (power - places.length), rest)
    | none =>
      let (power, rest) ← readExponent rest
      return (← finite? negative (decimal whole) power, rest)

/-- Whole numbers are words of 64 bits. -/
def wholeNumber? (negative : Bool) (n : Nat) : Option Json :=
  if negative then (if n ≤ 0x8000000000000000 then some (.int (-(n : Int))) else none)
  else if n < 0x8000000000000000 then some (.int n)
  else none

/-- A whole number: decimal with a sign, or in another base without one. -/
def readInteger : List Char → Option (Json × List Char)
  | '0' :: 'x' :: rest => based 16 rest
  | '0' :: 'o' :: rest => based 8 rest
  | '0' :: 'b' :: rest => based 2 rest
  | cs => do
    let (negative, rest) := readSign cs
    let (digits, rest) ← readWhole rest
    return (← wholeNumber? negative (decimal digits), rest)
where
  /-- Digits of a base. -/
  based (base : Nat) (cs : List Char) : Option (Json × List Char) := do
    let (digits, rest) ← readDigits (fun c => (Text.hexDigit? c).any (· < base)) cs
    return (← wholeNumber? false (← Text.ofDigits? base Text.hexDigit? digits), rest)

/-! ## Moments of time -/

/-- So many digits, which make a number between the bounds. -/
def readField (count low high : Nat) (cs : List Char) : Option (Nat × List Char) :=
  let digits := cs.take count
  if digits.length = count && digits.all Char.isDigit && low ≤ decimal digits && decimal digits ≤ high
  then some (decimal digits, cs.drop count)
  else none

/-- What follows a certain character. -/
def after? (c : Char) : List Char → Option (List Char)
  | d :: rest => if c == d then some rest else none
  | [] => none

/-- Days of a month. -/
def monthLength (year month : Nat) : Nat :=
  if month = 2 then (if (year % 4 = 0 && year % 100 ≠ 0) || year % 400 = 0 then 29 else 28)
  else if [4, 6, 9, 11].contains month then 30
  else 31

/-- What follows a date. -/
def afterDate? (cs : List Char) : Option (List Char) := do
  let (year, cs) ← readField 4 0 9999 cs
  let (month, cs) ← readField 2 1 12 (← after? '-' cs)
  let (_, cs) ← readField 2 1 (monthLength year month) (← after? '-' cs)
  return cs

/-- What follows a time of day. -/
def afterTime? (cs : List Char) : Option (List Char) := do
  let (_, cs) ← readField 2 0 23 cs
  let (_, cs) ← readField 2 0 59 (← after? ':' cs)
  let (_, cs) ← readField 2 0 60 (← after? ':' cs)
  match cs with
  | '.' :: d :: rest => return if d.isDigit then rest.dropWhile Char.isDigit else cs
  | cs => return cs

/-- What follows the distance to world time. -/
def afterOffset? : List Char → Option (List Char)
  | 'Z' :: rest => some rest
  | 'z' :: rest => some rest
  | c :: rest =>
    if c == '+' || c == '-' then do
      let (_, cs) ← readField 2 0 23 rest
      let (_, cs) ← readField 2 0 59 (← after? ':' cs)
      return cs
    else none
  | [] => none

/-- What follows a moment: a date, a time of day, or both with or without an offset. -/
def afterMoment? (cs : List Char) : Option (List Char) :=
  match afterDate? cs with
  | none => afterTime? cs
  | some rest =>
    match rest with
    | c :: more =>
      if c == 'T' || c == 't' || c == ' ' then
        match afterTime? more with
        | some rest => some ((afterOffset? rest).getD rest)
        | none => some rest
      else some rest
    | [] => some rest

/-- A moment as a value. -/
def readMoment (cs : List Char) : Option (Json × List Char) :=
  (afterMoment? cs).map fun rest =>
    (.obj [("moment", .str (String.ofList (cs.take (cs.length - rest.length))))], rest)

/-- A scalar that is no string. -/
def readPlainScalar (cs : List Char) : Option (Json × List Char) :=
  match cs with
  | 't' :: 'r' :: 'u' :: 'e' :: rest => some (.bool true, rest)
  | 'f' :: 'a' :: 'l' :: 's' :: 'e' :: rest => some (.bool false, rest)
  | cs => (readMoment cs).or ((readFloat cs).or (readInteger cs))

end BoardBench.Toml
