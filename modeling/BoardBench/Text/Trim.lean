import BoardBench.Text.Classes

/-!
# Trimming

Texts without the blanks at their ends.
-/

namespace BoardBench.Text

/-- The characters without the blanks in front. -/
def dropBlanks (cs : List Char) : List Char := cs.dropWhile fun c => isSpace c.toNat

/-- The text without the blanks at its end. -/
def trimEnd (s : String) : String := String.ofList (dropBlanks s.toList.reverse).reverse

/-- The text without the blanks at both ends. -/
def trim (s : String) : String := trimEnd (String.ofList (dropBlanks s.toList))

end BoardBench.Text
