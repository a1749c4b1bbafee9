/-!
# Coloured text

Terminals are told of colours and emphasis by escape sequences around the text.
-/

namespace BoardBench.Text

/-- A colour of the text, by its number among those of a terminal. -/
inductive Colour where
  | red | green | yellow | blue | cyan
  deriving DecidableEq, Repr

def Colour.number : Colour → Nat
  | red => 1
  | green => 2
  | yellow => 3
  | blue => 4
  | cyan => 6

/-- Emphasis of the text. -/
inductive Emphasis where
  | bold | dim | underlined
  deriving DecidableEq, Repr

def Emphasis.number : Emphasis → Nat
  | bold => 1
  | dim => 2
  | underlined => 4

/-- An escape sequence. -/
def escapeCode (n : Nat) : String := "\x1b[" ++ toString n ++ "m"

/-- A text in a colour and with emphasis, or as it is if colours are off. -/
def styled (colours : Bool) (colour : Option Colour) (emphasis : List Emphasis) (s : String) : String :=
  if !colours || (colour.isNone && emphasis.isEmpty) then s
  else
    (colour.map fun c => escapeCode (30 + c.number)).getD "" ++
      String.join (emphasis.map fun e => escapeCode e.number) ++ s ++ escapeCode 0

end BoardBench.Text
