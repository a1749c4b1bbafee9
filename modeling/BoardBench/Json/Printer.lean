import BoardBench.Json.Basic
import BoardBench.Text.Numeral

/-!
# Printing JSON

On one line without blanks, or spread over lines with two blanks for each level.
-/

namespace BoardBench.Json

/-- How one character stands in a text. -/
def escape (c : Char) : String :=
  match c with
  | '"' => "\\\""
  | '\\' => "\\\\"
  | '\n' => "\\n"
  | '\r' => "\\r"
  | '\t' => "\\t"
  | c =>
    if c.toNat == 8 then "\\b"
    else if c.toNat == 12 then "\\f"
    else if c.toNat < 0x20 then "\\u" ++ Text.padZeros 4 (Text.hex c.toNat)
    else c.toString

/-- A text between quotes. -/
def textForm (s : String) : String := "\"" ++ String.join (s.toList.map escape) ++ "\""

/-- A number with a fraction or an exponent. -/
def decimalForm (negative : Bool) (mantissa : Nat) (exponent : Int) : String :=
  (if negative then "-" else "") ++ toString mantissa ++ "e" ++ toString exponent

mutual

/-- The value on one line. -/
def compact : Json → String
  | null => "null"
  | bool b => if b then "true" else "false"
  | int n => toString n
  | decimal s m e => decimalForm s m e
  | str s => textForm s
  | arr items => "[" ++ ",".intercalate (compactItems items) ++ "]"
  | obj members => "\x7b" ++ ",".intercalate (compactMembers members) ++ "\x7d"

/-- The items of a list, each on one line. -/
def compactItems : List Json → List String
  | [] => []
  | v :: rest => compact v :: compactItems rest

/-- The members of an object, each on one line. -/
def compactMembers : List (String × Json) → List String
  | [] => []
  | (k, v) :: rest => (textForm k ++ ":" ++ compact v) :: compactMembers rest

end

/-- A bracketed list over several lines; an empty one stays on its line. -/
def block (opening closing : String) (indent : String) (items : List String) : String :=
  if items.isEmpty then opening ++ closing
  else
    opening ++ "\n" ++ ",\n".intercalate (items.map fun s => indent ++ "  " ++ s) ++ "\n" ++ indent ++
      closing

mutual

/-- The value over several lines, in a place that is indented by `indent`. -/
def pretty (indent : String) : Json → String
  | arr items => block "[" "]" indent (prettyItems (indent ++ "  ") items)
  | obj members => block "\x7b" "\x7d" indent (prettyMembers (indent ++ "  ") members)
  | j => compact j

/-- The items of a list, each over several lines. -/
def prettyItems (indent : String) : List Json → List String
  | [] => []
  | v :: rest => pretty indent v :: prettyItems indent rest

/-- The members of an object, each over several lines. -/
def prettyMembers (indent : String) : List (String × Json) → List String
  | [] => []
  | (k, v) :: rest => (textForm k ++ ": " ++ pretty indent v) :: prettyMembers indent rest

end

end BoardBench.Json
