import Placard.Toml.Value

set_option relaxedAutoImplicit false
set_option autoImplicit false

/-!
# TOML tables

A table is built up by statements that each name a place by a path of keys. A path may be extended
only where TOML says so: a table that has been opened by its own header is not opened again, a value
is never extended, and a table made by dotted keys is only added to by dotted keys.

## Main definitions

* `Placard.Toml.Node`: a table under construction.
* `Placard.Toml.setKey?`, `Placard.Toml.openTable?`, `Placard.Toml.openElement?`: what statements
  do.
* `Placard.Toml.Node.toValue`: the finished value.
-/

namespace Placard.Toml

/-- How a table came about. -/
inductive Origin where
  /-- By its own header, or as the whole document. -/
  | header
  /-- By the header of a table inside it. -/
  | path
  /-- By a dotted key. -/
  | dotted
deriving DecidableEq, Repr

/-- What stands under a key while a document is read. -/
inductive Node where
  /-- A finished value. -/
  | value (v : Value)
  /-- A table that may still grow. -/
  | table (origin : Origin) (entries : List (String × Node))
  /-- An array of tables, of which the last one may still grow. -/
  | tables (earlier : List (List (String × Node))) (last : List (String × Node))

/-- The keys of a table under construction. -/
abbrev Entries := List (String × Node)

/-- The entries with another node under a key that they have. -/
def replaceNode (entries : Entries) (key : String) (node : Node) : Entries :=
  entries.map fun entry => if entry.1 == key then (key, node) else entry

/-- Changes the table at a path, given how it came about. Tables on the way that do not exist are
made with the origin `made`. A dotted key does not lead into a table with a header of its own; a
path leads into the last table of an array. -/
def descend? (made : Origin) (change : Origin → Entries → Option Entries) :
    List String → Origin → Entries → Option Entries
  | [], origin, entries => change origin entries
  | key :: path, _, entries =>
    match entries.lookup key with
    | none => do
      let below ← descend? made change path made []
      some (entries ++ [(key, .table made below)])
    | some (.value _) => none
    | some (.table origin below) =>
      if made = .dotted ∧ origin = .header then none
      else do
        let below ← descend? made change path origin below
        some (replaceNode entries key (.table origin below))
    | some (.tables earlier last) => do
      let last ← descend? made change path .header last
      some (replaceNode entries key (.tables earlier last))

/-- Adds an entry, unless the key is taken. -/
def addEntry? (key : String) (node : Node) (entries : Entries) : Option Entries :=
  if (entries.lookup key).isSome then none else some (entries ++ [(key, node)])

/-- Sets a key of a table, given the dotted path to it. A table that the path leads to must itself
have come about by a dotted key. -/
def setKey? (path : List String) (key : String) (v : Value) (origin : Origin) (entries : Entries) :
    Option Entries :=
  descend? .dotted
    (fun found entries =>
      if path.isEmpty || found == .dotted then addEntry? key (.value v) entries else none)
    path origin entries

/-- Opens a table by its header. A table that so far came about only by the headers of tables inside
it counts as new, and moves behind the others. -/
def openTable? (path : List String) (key : String) (root : Entries) : Option Entries :=
  descend? .path
    (fun _ entries =>
      match entries.lookup key with
      | none => some (entries ++ [(key, .table .header [])])
      | some (.table .path below) =>
        some (entries.filter (·.1 != key) ++ [(key, .table .header below)])
      | some _ => none)
    path .header root

/-- Opens the next table of an array. -/
def openElement? (path : List String) (key : String) (root : Entries) : Option Entries :=
  descend? .path
    (fun _ entries =>
      match entries.lookup key with
      | none => some (entries ++ [(key, .tables [] [])])
      | some (.tables earlier last) =>
        some (replaceNode entries key (.tables (earlier ++ [last]) []))
      | some _ => none)
    path .header root

mutual

/-- The finished value of a node. -/
def Node.toValue : Node → Value
  | .value v => v
  | .table _ entries => .table (toValues entries)
  | .tables earlier last => .array (toTables earlier ++ [.table (toValues last)])

/-- The finished entries of a table. -/
def toValues : List (String × Node) → List (String × Value)
  | [] => []
  | (key, node) :: entries => (key, node.toValue) :: toValues entries

/-- The finished tables of an array. -/
def toTables : List (List (String × Node)) → List Value
  | [] => []
  | entries :: others => .table (toValues entries) :: toTables others

end

end Placard.Toml
