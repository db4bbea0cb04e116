import Placard.Toml.Moment
import Placard.Toml.Number
import Placard.Toml.Table

set_option relaxedAutoImplicit false
set_option autoImplicit false

/-!
# TOML documents

A document is a sequence of statements, each on a line of its own: a key is set to a value, or a
header says which table the following keys belong to.

## Main definitions

* `Placard.Toml.value`: a value, with arrays and tables nested up to a limit.
* `Placard.Toml.Statement`: a line of a document.
* `Placard.Toml.read?`: the table that a document describes.
-/

namespace Placard.Toml

open Reader

/-- How deep arrays and tables may be nested in a value. -/
def nestingLimit : Nat := 79

/-- How many parts a dotted key may have. -/
def keyLimit : Nat := 79

/-- A character of a key without quotes. -/
def isKeyChar (c : Char) : Bool := c.isAlphanum || c == '_' || c == '-'

/-- A part of a key, with or without quotes, and the blanks around it. -/
def keyPart : Reader String := do
  blanks
  let part ← lineText <|> span1 isKeyChar
  blanks
  pure (String.ofList part)

/-- A place named by keys: those on the way, and the last one. -/
structure Place where
  /-- The keys on the way. -/
  path : List String
  /-- The last key. -/
  key : String
deriving DecidableEq, Repr

/-- A key, whose parts are divided by dots. -/
def place : Reader Place := do
  let first ← keyPart
  let others ← many do
    char '.'
    keyPart
  let parts := first :: others
  if parts.length ≤ keyLimit then
    pure { path := parts.dropLast, key := parts.getLast?.getD first }
  else failure

/-- An array of elements. A comma may follow the last one. -/
def array (element : Reader Value) : Reader Value := do
  char '['
  gap
  let first ← optional (element <* gap)
  match first with
  | none =>
    char ']'
    pure (.array [])
  | some v =>
    let others ← many do
      char ','
      gap
      element <* gap
    let _ ← optional (char ',')
    gap
    char ']'
    pure (.array (v :: others))

/-- A key set to a value on the same line. -/
def assignment (element : Reader Value) : Reader (Place × Value) := do
  let place ← place
  char '='
  blanks
  let v ← element
  blanks
  pure (place, v)

/-- A table on one line. -/
def inlineTable (element : Reader Value) : Reader Value := do
  char '\x7b'
  blanks
  let assignments ←
    (do
      char '\x7d'
      pure [])
    <|> do
      let first ← assignment element
      let others ← many do
        char ','
        assignment element
      char '\x7d'
      pure (first :: others)
  let entries ← ofOption <|
    assignments.foldlM (fun entries (place, v) => setKey? place.path place.key v .header entries) []
  pure (.table (toValues entries))

/-- A value that holds no other values. -/
def scalar : Reader Value := do
  match ← ahead with
  | '"' :: _ | '\'' :: _ => do pure (.string (String.ofList (← text)))
  | 't' :: _ =>
    chars "true".toList
    pure (.boolean true)
  | 'f' :: _ =>
    chars "false".toList
    pure (.boolean false)
  | _ => moment <|> float <|> integer

/-- A value with arrays and tables nested at most `depth` deep. -/
def value : Nat → Reader Value
  | 0 => scalar
  | depth + 1 => do
    match ← ahead with
    | '[' :: _ => array (value depth)
    | '\x7b' :: _ => inlineTable (value depth)
    | _ => scalar

/-- A line of a document. -/
inductive Statement where
  /-- Sets a key. -/
  | set (place : Place) (v : Value)
  /-- Opens a table. -/
  | table (place : Place)
  /-- Opens the next table of an array. -/
  | element (place : Place)
  /-- Says nothing. -/
  | blank

/-- A line of a document, up to its end. -/
def statement : Reader Statement := do
  blanks
  let said ←
    match ← ahead with
    | '[' :: '[' :: _ => do
      chars ['[', '[']
      let place ← place
      chars [']', ']']
      pure (Statement.element place)
    | '[' :: _ => do
      char '['
      let place ← place
      char ']'
      pure (Statement.table place)
    | [] | '#' :: _ | '\n' :: _ | '\r' :: _ => pure .blank
    | _ => do
      let (place, v) ← assignment (value nestingLimit)
      pure (Statement.set place v)
  lineEnd
  pure said

/-- A document under construction: its entries, and the table that the next keys belong to. -/
structure Draft where
  /-- The entries of the document. -/
  root : Entries := []
  /-- The path to the table of the last header. -/
  current : List String := []

/-- The document after one more statement. -/
def Draft.add? (d : Draft) : Statement → Option Draft
  | .blank => some d
  | .table p => do
    let root ← openTable? p.path p.key d.root
    some { root, current := p.path ++ [p.key] }
  | .element p => do
    let root ← openElement? p.path p.key d.root
    some { root, current := p.path ++ [p.key] }
  | .set p v => do
    let root ← descend? .path (setKey? p.path p.key v) d.current .header d.root
    some { d with root }

/-- The statements of a document, behind an optional byte order mark. -/
def statements : Reader (List Statement) := do
  let _ ← optional (char '\uFEFF')
  many statement

/-- The table that a document describes, if it is one. -/
def read? (source : String) : Option (List (String × Value)) := do
  let said ← statements.whole? source.toList
  let draft ← said.foldlM Draft.add? {}
  some (toValues draft.root)

end Placard.Toml
