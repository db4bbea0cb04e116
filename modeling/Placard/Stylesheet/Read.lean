import Placard.Decimal.Shortest
import Placard.Stylesheet.Basic
import Placard.Text.Quoted
import Placard.Toml.Document

set_option relaxedAutoImplicit false
set_option autoImplicit false

/-!
# Reading stylesheets

A stylesheet is a TOML document with three tables, all of them optional: `metadata`, `schemes` and
`pie`. A table with fixed fields may also be given as an array of its fields in order, and other
keys than the known ones are ignored. The first fault in the order of the document is reported, a
missing field only when all fields that are there are sound.

## Main definitions

* `Placard.StylesheetError`: why a text is not a stylesheet.
* `Placard.Overrides.read`, `Placard.Stylesheet.read`: what a text sets, and the stylesheet it
  makes.
-/

namespace Placard

/-- Why a text is not a stylesheet. -/
inductive StylesheetError where
  /-- The text is no TOML document. -/
  | notToml
  /-- An array that stands for a table has too few elements. -/
  | tooShort
  /-- A value is not of the kind that is wanted. -/
  | wrongType (got wanted : String)
  /-- A table lacks a field. -/
  | missingField (name : String)
deriving DecidableEq, Repr

/-- What is said about a fault in the shape of a stylesheet. Nothing is said about a text that has
no shape at all. -/
def StylesheetError.message? : StylesheetError → Option String
  | .notToml | .tooShort => none
  | .wrongType got wanted => some ("invalid type: " ++ got ++ ", expected " ++ wanted)
  | .missingField name => some ("missing field `" ++ name ++ "`")

namespace Toml.Value

/-- A number as it is shown in a message: one that is whole keeps a zero behind the point. -/
def floatWithPoint (x : Float) : String :=
  let text := floatText x
  if x.isFinite && !text.toList.contains '.' then text ++ ".0" else text

/-- What a value is called in a message. A date is seen as a table with one field. -/
def described : Value → String
  | .string s => "string " ++ Text.quote s
  | .integer n => "integer `" ++ toString n ++ "`"
  | .float x => "floating point `" ++ floatWithPoint x ++ "`"
  | .boolean b => "boolean `" ++ toString b ++ "`"
  | .array _ => "sequence"
  | .moment _ | .table _ => "map"

/-- The error of a value that is not of the wanted kind. -/
def refuse {α : Type} (v : Value) (wanted : String) : Except StylesheetError α :=
  .error (.wrongType v.described wanted)

/-- The entries of a table. Those of a date are the one field that holds its text. -/
def entries? : Value → Option (List (String × Value))
  | .table entries => some entries
  | .moment text => some [("$moment", .string text)]
  | _ => none

end Toml.Value

/-- A text. -/
def readText : Toml.Value → Except StylesheetError String
  | .string s => .ok s
  | v => v.refuse "a string"

/-- A list of texts. -/
def readTexts : Toml.Value → Except StylesheetError (List String)
  | .array values => values.mapM readText
  | v => v.refuse "a sequence"

section Fields

variable {α : Type}

/-- The values of fields by name, for the entries that are fields. -/
def readKnown (fields : List String) (read : Toml.Value → Except StylesheetError α) :
    List (String × Toml.Value) → Except StylesheetError (List (String × α))
  | [] => .ok []
  | (key, v) :: entries => do
    if fields.contains key then
      let a ← read v
      let others ← readKnown fields read entries
      .ok ((key, a) :: others)
    else readKnown fields read entries

/-- The values of fields by name, for elements in the order of the fields. Further elements are
ignored. -/
def readElements (read : Toml.Value → Except StylesheetError α) :
    List String → List Toml.Value → Except StylesheetError (List (String × α))
  | [], _ => .ok []
  | _ :: _, [] => .error .tooShort
  | field :: fields, v :: values => do
    let a ← read v
    let others ← readElements read fields values
    .ok ((field, a) :: others)

/-- The values of the fields of a table that are there. -/
def readFields (kind : String) (fields : List String)
    (read : Toml.Value → Except StylesheetError α) (v : Toml.Value) :
    Except StylesheetError (List (String × α)) :=
  match v with
  | .array values => readElements read fields values
  | _ =>
    match v.entries? with
    | some entries => readKnown fields read entries
    | none => v.refuse ("struct " ++ kind)

/-- The value of a field that has to be there. -/
def require (found : List (String × α)) (field : String) : Except StylesheetError α :=
  match found.lookup field with
  | some a => .ok a
  | none => .error (.missingField field)

end Fields

/-- A palette, with a color for each role. -/
def Palette.read (v : Toml.Value) : Except StylesheetError Palette := do
  let found ← readFields "Palette" (Role.all.map (·.name)) readText v
  let _ ← Role.all.mapM fun role => require found role.name
  .ok { color := fun role => (found.lookup role.name).getD "" }

/-- A color scheme, with a palette for each mode. -/
def Scheme.read (v : Toml.Value) : Except StylesheetError Scheme := do
  let found ← readFields "SchemeColors" (Mode.all.map (·.name)) Palette.read v
  .ok { light := ← require found Mode.light.name, dark := ← require found Mode.dark.name }

/-- The colors of pies, with a list for each mode. -/
def PieColors.read (v : Toml.Value) : Except StylesheetError PieColors := do
  let found ← readFields "PieColors" (Mode.all.map (·.name)) readTexts v
  .ok { light := ← require found Mode.light.name, dark := ← require found Mode.dark.name }

/-- Color schemes by name. -/
def readSchemes (v : Toml.Value) : Except StylesheetError (List (String × Scheme)) :=
  match v.entries? with
  | some entries => entries.mapM fun (name, v) => do .ok (name, ← Scheme.read v)
  | none => v.refuse "a map"

namespace Overrides

/-- The overrides with a name and a description added. -/
def addMetadata (o : Overrides) (v : Toml.Value) : Except StylesheetError Overrides := do
  let found ← readFields "TomlMetadata" ["name", "description"] readText v
  .ok { o with name := found.lookup "name", description := found.lookup "description" }

/-- The overrides with a table of the document added, if its key is known. -/
def addTable (o : Overrides) (entry : String × Toml.Value) : Except StylesheetError Overrides := do
  match entry.1 with
  | "metadata" => o.addMetadata entry.2
  | "schemes" => .ok { o with schemes := ← readSchemes entry.2 }
  | "pie" => .ok { o with pie := some (← PieColors.read entry.2) }
  | _ => .ok o

/-- What the text of a stylesheet sets. -/
def read (source : String) : Except StylesheetError Overrides :=
  match Toml.read? source with
  | some entries => entries.foldlM addTable {}
  | none => .error .notToml

end Overrides

/-- The stylesheet that a text makes, laid over the built-in one. -/
def Stylesheet.read (source : String) : Except StylesheetError Stylesheet :=
  (Overrides.read source).map Stylesheet.builtin.merge

end Placard
