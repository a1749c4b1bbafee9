import BoardBench.Text.Category
import BoardBench.Text.Folding

/-!
# Character classes

Which characters are digits, blanks and parts of words, over the whole of Unicode.
-/

namespace BoardBench.Text

/-- Decimal digits of any script. -/
def isDigit (c : Nat) : Bool :=
  if c < 0x80 then 0x30 ≤ c && c ≤ 0x39 else Category.ofCodePoint c = .nd

/-- Blanks and line ends of any kind. -/
def isSpace (c : Nat) : Bool :=
  (9 ≤ c && c ≤ 13) || c == 0x20 || c == 0x85 || c == 0xA0 || c == 0x1680 ||
  (0x2000 ≤ c && c ≤ 0x200A) || c == 0x2028 || c == 0x2029 || c == 0x202F || c == 0x205F ||
  c == 0x3000

/-- Letters in circles and squares, which are symbols but count as letters. -/
def isEnclosedLetter (c : Nat) : Bool :=
  (0x24B6 ≤ c && c ≤ 0x24E9) || (0x1F130 ≤ c && c ≤ 0x1F149) || (0x1F150 ≤ c && c ≤ 0x1F169) ||
  (0x1F170 ≤ c && c ≤ 0x1F189)

/-- Letters of any script, with the numbers that count as letters. -/
def isAlphabetic (c : Nat) : Bool :=
  if c < 0x80 then (0x41 ≤ c && c ≤ 0x5A) || (0x61 ≤ c && c ≤ 0x7A)
  else
    let k := Category.ofCodePoint c
    k.isLetter || k = .nl || isEnclosedLetter c

/-- Letters, marks, digits, connecting punctuation and joiners. -/
def isWord (c : Nat) : Bool :=
  if c < 0x80 then
    (0x30 ≤ c && c ≤ 0x39) || (0x41 ≤ c && c ≤ 0x5A) || c == 0x5F || (0x61 ≤ c && c ≤ 0x7A)
  else
    let k := Category.ofCodePoint c
    k.isLetter || k.isMark || k = .nd || k = .nl || k = .pc || c == 0x200C || c == 0x200D ||
    isEnclosedLetter c

end BoardBench.Text
