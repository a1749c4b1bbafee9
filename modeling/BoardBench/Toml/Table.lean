import BoardBench.Json.Basic

/-!
# Tables of configuration texts

A configuration text is a table of tables that is filled line by line. A table is made by its header,
or on the way to what a longer header or a dotted key names; how it was made decides what may still be
added to it.
-/

namespace BoardBench.Toml

/-- What stands under a key while the text is read. -/
inductive Node where
  /-- A finished value. -/
  | value (j : Json)
  /-- A table: whether it has no header of its own, and whether a dotted key has made it. -/
  | table (implicit dotted : Bool) (entries : List (String × Node))
  /-- A list of tables, the latest first. -/
  | tables (items : List Node)
  deriving Repr

namespace Node

/-- A table with nothing in it. -/
def emptyTable (implicit dotted : Bool) : Node := table implicit dotted []

/-- The entries with another value under a key, which keeps its place. -/
def setEntry (key : String) (node : Node) : List (String × Node) → List (String × Node)
  | [] => [(key, node)]
  | (k, n) :: rest => if k = key then (k, node) :: rest else (k, n) :: setEntry key node rest

/-- Changes what keys lead to, making the tables on the way; of a list of tables the latest is meant.
A dotted key does not lead into a table with a header. -/
def update (dotted : Bool) (f : Node → Option Node) : List String → Node → Option Node
  | [], node => f node
  | key :: path, table i d entries => do
    let child ← match entries.lookup key with
      | none => update dotted f path (emptyTable true dotted)
      | some (value _) => none
      | some (tables []) => none
      | some (tables (latest :: earlier)) =>
        (update dotted f path latest).map fun latest => tables (latest :: earlier)
      | some (table i' d' es) =>
        if dotted && !i' then none else update dotted f path (table i' d' es)
    return table i d (setEntry key child entries)
  | _ :: _, _ => none

/-- The keys on the way and the last one. -/
def splitLast : List String → Option (List String × String)
  | [] => none
  | [key] => some ([], key)
  | key :: rest => (splitLast rest).map fun (path, last) => (key :: path, last)

/-- Opens the table of a header. -/
def openTable (path : List String) (root : Node) : Option Node := do
  let (parents, key) ← splitLast path
  root.update false (fun parent => match parent with
    | table i d entries =>
      match entries.lookup key with
      | none => some (table i d (setEntry key (emptyTable false false) entries))
      | some (table true false es) => some (table i d (setEntry key (table false false es) entries))
      | some _ => none
    | _ => none) parents

/-- Opens the next table of a list. -/
def openListed (path : List String) (root : Node) : Option Node := do
  let (parents, key) ← splitLast path
  root.update false (fun parent => match parent with
    | table i d entries =>
      match entries.lookup key with
      | none => some (table i d (setEntry key (tables [emptyTable false false]) entries))
      | some (tables items) =>
        some (table i d (setEntry key (tables (emptyTable false false :: items)) entries))
      | some _ => none
    | _ => none) parents

/-- Puts a value under a key of a table; `path` leads there by a dotted key. -/
def assign (path : List String) (key : String) (j : Json) (node : Node) : Option Node :=
  node.update true (fun target => match target with
    | table i d entries =>
      if d == path.isEmpty || (entries.lookup key).isSome then none
      else some (table i d (entries ++ [(key, value j)]))
    | _ => none) path

mutual

/-- The value of a node. -/
def toJson : Node → Json
  | value j => j
  | table _ _ entries => .obj (entriesJson entries)
  | tables items => .arr (itemsJson items [])

/-- The values of entries. -/
def entriesJson : List (String × Node) → List (String × Json)
  | [] => []
  | (key, node) :: rest => (key, toJson node) :: entriesJson rest

/-- The values of nodes, in front of others, the latest last. -/
def itemsJson : List Node → List Json → List Json
  | [], acc => acc
  | node :: rest, acc => itemsJson rest (toJson node :: acc)

end

end Node
end BoardBench.Toml
