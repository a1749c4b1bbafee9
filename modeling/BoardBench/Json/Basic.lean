/-!
# JSON values

Values as they are exchanged with other programs. Whole numbers are kept apart from those written
with a fraction or an exponent, and the members of an object keep their order.
-/

namespace BoardBench

/-- A JSON value. -/
inductive Json where
  | null
  | bool (b : Bool)
  | int (n : Int)
  /-- `± mantissa · 10 ^ exponent`. -/
  | decimal (negative : Bool) (mantissa : Nat) (exponent : Int)
  | str (s : String)
  | arr (items : List Json)
  | obj (members : List (String × Json))
  deriving Repr, Inhabited

namespace Json

/-- The member of a name; of two the later one. -/
def field? (j : Json) (name : String) : Option Json :=
  match j with
  | obj members => (members.reverse.find? (·.1 == name)).map (·.2)
  | _ => none

def str? : Json → Option String
  | str s => some s
  | _ => none

def bool? : Json → Option Bool
  | bool b => some b
  | _ => none

def int? : Json → Option Int
  | int n => some n
  | _ => none

def nat? : Json → Option Nat
  | int (.ofNat n) => some n
  | _ => none

def arr? : Json → Option (List Json)
  | arr items => some items
  | _ => none

def isNull : Json → Bool
  | null => true
  | _ => false

/-- The member of a name, unless it is missing or null. -/
def member? (j : Json) (name : String) : Option Json := (j.field? name).filter fun v => !v.isNull

/-- The number under a name, or zero. -/
def natAt (j : Json) (name : String) : Nat := ((j.member? name).bind nat?).getD 0

/-- The truth value under a name, or `otherwise`. -/
def boolAt (j : Json) (name : String) (otherwise : Bool) : Bool :=
  ((j.member? name).bind bool?).getD otherwise

/-- The value under a name, or an object without members. -/
def recordAt (j : Json) (name : String) : Json := (j.member? name).getD (obj [])

/-- The number under a name, if there is one. -/
def natAt? (j : Json) (name : String) : Option Nat := (j.member? name).bind nat?

/-- The items of the list under a name, if there is one. -/
def itemsAt (j : Json) (name : String) : List Json := ((j.member? name).bind arr?).getD []

mutual

/-- How deep the value is nested. -/
def depth : Json → Nat
  | arr items => depthItems items + 1
  | obj members => depthMembers members + 1
  | _ => 1

/-- How deep the deepest of some values is nested. -/
def depthItems : List Json → Nat
  | [] => 0
  | j :: rest => Nat.max (depth j) (depthItems rest)

/-- How deep the deepest of some members is nested. -/
def depthMembers : List (String × Json) → Nat
  | [] => 0
  | (_, j) :: rest => Nat.max (depth j) (depthMembers rest)

end

/-- A text, or null. -/
def ofText? (s : Option String) : Json := (s.map str).getD null

/-- A natural number. -/
def nat (n : Nat) : Json := int n

/-- For a number other than zero, one more than the power of ten of its first digit. -/
def magnitude (mantissa : Nat) (exponent : Int) : Int := (Nat.toDigits 10 mantissa).length + exponent

end Json
end BoardBench
