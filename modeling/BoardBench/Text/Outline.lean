import BoardBench.Text.Quoted

/-!
# Outlines

The shape of a value for people to read: records with named fields, values under a tag, and lists.
An outline is written in one line, or with a line for each part.
-/

namespace BoardBench.Text

/-- The shape of a value. -/
inductive Outline where
  /-- Written as it stands. -/
  | leaf (text : String)
  | tagged (tag : String) (value : Outline)
  | list (items : List Outline)
  /-- A record; one that is `partly` shown has more fields than those. -/
  | record (tag : String) (fields : List (String × Outline)) (partly : Bool)

namespace Outline

def ofText (s : String) : Outline := leaf (quoted s)
def ofBool (b : Bool) : Outline := leaf (toString b)

/-- A value that may be missing. -/
def ofOption : Option Outline → Outline
  | none => leaf "None"
  | some o => tagged "Some" o

mutual

/-- The outline in one line. -/
def line : Outline → String
  | leaf text => text
  | tagged tag value => tag ++ "(" ++ line value ++ ")"
  | list items => "[" ++ ", ".intercalate (lines items) ++ "]"
  | record tag fields partly =>
    tag ++ " \x7b " ++ ", ".intercalate (fieldLines fields ++ if partly then [".."] else []) ++ " \x7d"

/-- Each outline of a list in one line. -/
def lines : List Outline → List String
  | [] => []
  | o :: rest => line o :: lines rest

/-- Each field in one line. -/
def fieldLines : List (String × Outline) → List String
  | [] => []
  | (name, o) :: rest => (name ++ ": " ++ line o) :: fieldLines rest

end

/-- A line break and the indentation of what follows it. -/
def newLine (depth : Nat) : String := "\n" ++ "".pushn ' ' (4 * depth)

mutual

/-- The outline with a line for each part, at a depth of indentation. -/
def indented (depth : Nat) : Outline → String
  | leaf text => text
  | tagged tag value =>
    tag ++ "(" ++ newLine (depth + 1) ++ indented (depth + 1) value ++ "," ++ newLine depth ++ ")"
  | list items =>
    if items.isEmpty then "[]" else "[" ++ indentedItems (depth + 1) items ++ newLine depth ++ "]"
  | record tag fields partly =>
    tag ++ " \x7b" ++ indentedFields (depth + 1) fields ++
      (if partly then newLine (depth + 1) ++ ".." else "") ++ newLine depth ++ "\x7d"

/-- Each outline of a list on lines of its own. -/
def indentedItems (depth : Nat) : List Outline → String
  | [] => ""
  | o :: rest => newLine depth ++ indented depth o ++ "," ++ indentedItems depth rest

/-- Each field on lines of its own. -/
def indentedFields (depth : Nat) : List (String × Outline) → String
  | [] => ""
  | (name, o) :: rest =>
    newLine depth ++ name ++ ": " ++ indented depth o ++ "," ++ indentedFields depth rest

end

end Outline
end BoardBench.Text
