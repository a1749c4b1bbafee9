/-!
# Numerals

Numbers in messages and commands: hexadecimal digits in lower case, and digits filled up with zeros
on the left.
-/

namespace BoardBench.Text

/-- The hexadecimal digits of a number, in lower case and without leading zeros. -/
def hex (n : Nat) : String := String.ofList (Nat.toDigits 16 n)

/-- A hexadecimal number as the bootloader writes it. -/
def hex0x (n : Nat) : String := "0x" ++ hex n

/-- `s`, with zeros in front up to `width` characters. -/
def padZeros (width : Nat) (s : String) : String :=
  String.ofList (List.replicate (width - s.length) '0') ++ s

/-- `s`, with blanks after it up to `width` characters. -/
def padRight (width : Nat) (s : String) : String :=
  s ++ String.ofList (List.replicate (width - s.length) ' ')

/-- The value of a decimal digit. -/
def digit? (c : Char) : Option Nat :=
  if c.isDigit then some (c.toNat - '0'.toNat) else none

/-- The value of a hexadecimal digit. -/
def hexDigit? (c : Char) : Option Nat :=
  if c.isDigit then some (c.toNat - '0'.toNat)
  else if 'a' ≤ c && c ≤ 'f' then some (c.toNat - 'a'.toNat + 10)
  else if 'A' ≤ c && c ≤ 'F' then some (c.toNat - 'A'.toNat + 10)
  else none

/-- The number that digits of a base stand for; none for no digits or a character that is none. -/
def ofDigits? (base : Nat) (digit? : Char → Option Nat) (cs : List Char) : Option Nat :=
  if cs.isEmpty then none
  else cs.foldl (fun acc c => do return (← acc) * base + (← digit? c)) (some 0)

/-- A decimal number, with at most one plus sign before it, that is below `bound`. -/
def decimal? (bound : Nat) (s : String) : Option Nat :=
  let digits := match s.toList with
    | '+' :: rest => rest
    | cs => cs
  (ofDigits? 10 digit? digits).filter (· < bound)

/-- A hexadecimal number, with at most one plus sign before it, that is below `bound`. -/
def hexadecimal? (bound : Nat) (s : String) : Option Nat :=
  let digits := match s.toList with
    | '+' :: rest => rest
    | cs => cs
  (ofDigits? 16 hexDigit? digits).filter (· < bound)

end BoardBench.Text
