import BoardBench.Json.Basic

/-!
# Reading records

Records are written as objects, whose members may stand in any order and may be more than are asked
for, or as lists with one item for each field. A `FieldReader` reads the fields one after the other
and works for both; `Json.record?` makes a reader of whole records of it.
-/

namespace BoardBench

/-- What is left of a record while its fields are read. -/
inductive Fields where
  | named (members : List (String × Json))
  | ordered (items : List Json)
  deriving Repr

/-- Reads some of the fields of a record. -/
abbrev FieldReader := StateT Fields Option

namespace Fields

/-- The value of the next field, if it is given. -/
def next? (name : String) : FieldReader (Option Json) := do
  match ← get with
  | named members => return (Json.obj members).field? name
  | ordered [] => return none
  | ordered (j :: rest) =>
    set (ordered rest)
    return some j

end Fields

namespace Json

/-- A value that may be null. -/
def orNull? {α : Type} (decode : Json → Option α) : Json → Option (Option α)
  | null => some none
  | j => (decode j).map some

/-- A list. -/
def listOf? {α : Type} (decode : Json → Option α) : Json → Option (List α)
  | arr items => items.mapM decode
  | _ => none

/-- A natural number below a bound. -/
def below? (bound : Nat) : Json → Option Nat
  | int (.ofNat n) => if n < bound then some n else none
  | _ => none

/-- One of some names: alone, or as the only member of an object, which is null. -/
def choice? {α : Type} (names : List (String × α)) : Json → Option α
  | str s => names.lookup s
  | obj [(s, null)] => names.lookup s
  | _ => none

/-- A table from names to values, in the order of the names. Of two values of a name the later one
counts. -/
def tableOf? {α : Type} (decode : Json → Option α) : Json → Option (List (String × α))
  | obj members => do
    let entries ← members.mapM fun (name, j) => return (name, ← decode j)
    return entries.foldl (fun table entry => insertEntry entry table) []
  | _ => none
where
  /-- Puts an entry in its place. -/
  insertEntry (entry : String × α) : List (String × α) → List (String × α)
    | [] => [entry]
    | (name, value) :: rest =>
      if entry.1 = name then entry :: rest
      else if entry.1 < name then entry :: (name, value) :: rest
      else (name, value) :: insertEntry entry rest

/-- A field that must be given. -/
def field {α : Type} (name : String) (decode : Json → Option α) : FieldReader α := do
  decode (← (← Fields.next? name))

/-- A field that may be null. By name it may also be missing. -/
def fieldOrNull {α : Type} (name : String) (decode : Json → Option α) : FieldReader (Option α) := do
  match ← get, ← Fields.next? name with
  | _, some j => orNull? decode j
  | .named _, none => return none
  | .ordered _, none => failure

/-- A field that may be missing. -/
def fieldOr {α : Type} (name : String) (decode : Json → Option α) (otherwise : α) : FieldReader α := do
  match ← Fields.next? name with
  | some j => decode j
  | none => return otherwise

/-- A whole record: an object, or a list in which nothing is left over. -/
def record? {α : Type} (read : FieldReader α) : Json → Option α
  | obj members => (read (.named members)).map (·.1)
  | arr items =>
    match read (.ordered items) with
    | some (a, .ordered []) => some a
    | _ => none
  | _ => none

/-- A whole record that is written as an object. -/
def object? {α : Type} (read : FieldReader α) : Json → Option α
  | obj members => (read (.named members)).map (·.1)
  | _ => none

end Json
end BoardBench
