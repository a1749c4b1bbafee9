import BoardBench.Text.Category
import BoardBench.Text.Numeral

/-!
# Quoted text

Text shown in a message stands between double quotes, with everything that a terminal would not
show as one character of its own written as an escape.
-/

namespace BoardBench.Text

/-- Characters other than nonspacing and enclosing marks that extend the one before them. -/
def extenders : List (Nat × Nat) := [
  (0x9BE, 0x9BE), (0x9D7, 0x9D7), (0xB3E, 0xB3E), (0xB57, 0xB57), (0xBBE, 0xBBE), (0xBD7, 0xBD7),
  (0xCC0, 0xCC0), (0xCC2, 0xCC2), (0xCC7, 0xCC8), (0xCCA, 0xCCB), (0xCD5, 0xCD6), (0xD3E, 0xD3E),
  (0xD57, 0xD57), (0xDCF, 0xDCF), (0xDDF, 0xDDF), (0x1715, 0x1715), (0x1734, 0x1734),
  (0x1B35, 0x1B35), (0x1B3B, 0x1B3B), (0x1B3D, 0x1B3D), (0x1B43, 0x1B44), (0x1BAA, 0x1BAA),
  (0x1BF2, 0x1BF3), (0x200C, 0x200C), (0x302E, 0x302F), (0xA953, 0xA953), (0xA9C0, 0xA9C0),
  (0xFF9E, 0xFF9F), (0x111C0, 0x111C0), (0x11235, 0x11235), (0x1133E, 0x1133E),
  (0x1134D, 0x1134D), (0x11357, 0x11357), (0x113B8, 0x113B8), (0x113C2, 0x113C2),
  (0x113C5, 0x113C5), (0x113C7, 0x113C9), (0x113CF, 0x113CF), (0x114B0, 0x114B0),
  (0x114BD, 0x114BD), (0x115AF, 0x115AF), (0x116B6, 0x116B6), (0x11930, 0x11930),
  (0x1193D, 0x1193D), (0x11F41, 0x11F41), (0x16FF0, 0x16FF1), (0x1D165, 0x1D166),
  (0x1D16D, 0x1D172), (0xE0020, 0xE007F)]

/-- Letters that are shown as nothing: fillers for missing parts of a syllable. -/
def fillers : List Nat := [0x115F, 0x1160, 0x3164, 0xFFA0]

/-- Whether a character extends the one before it. -/
def isExtender (c : Char) : Bool :=
  (match Category.of c with
    | .mn | .me => true
    | _ => false) || extenders.any fun (lo, hi) => lo ≤ c.toNat && c.toNat ≤ hi

/-- Whether a character is written as its code point. -/
def isHidden (c : Char) : Bool :=
  if 0x20 ≤ c.toNat && c.toNat < 0x7F then false
  else (Category.of c).isInvisible || isExtender c || fillers.contains c.toNat

/-- How one character is written between double quotes. -/
def escape (c : Char) : String :=
  match c with
  | '\x00' => "\\0"
  | '\t' => "\\t"
  | '\n' => "\\n"
  | '\r' => "\\r"
  | '"' => "\\\""
  | '\\' => "\\\\"
  | c => if isHidden c then "\\u\x7b" ++ hex c.toNat ++ "\x7d" else c.toString

/-- The text between double quotes. -/
def quoted (s : String) : String := "\"" ++ String.join (s.toList.map escape) ++ "\""

end BoardBench.Text
