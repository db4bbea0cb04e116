import Placard.Decimal.Shortest
import Placard.Document.Numeral
import Placard.Text.White

set_option relaxedAutoImplicit false
set_option autoImplicit false

/-!
# Documents

A document names a template and holds a forest of labelled items to be drawn with it.

## Main definitions

* `Placard.Value`: the value of an item, a number or a text.
* `Placard.Item`, `Placard.Document`: the forest and the document around it.
* `Placard.Value.coerce`: the value that a text stands for.
* `Placard.Item.magnitude`: the size with which a chart draws an item.
-/

namespace Placard

/-- The value of an item. -/
inductive Value where
  /-- A number. -/
  | number (x : Float)
  /-- A text that does not start with a numeral. -/
  | text (s : String)
deriving Repr

namespace Value

/-- The value that a text stands for: the number it starts with, or the text itself, trimmed. -/
def coerce (raw : List Char) : Value :=
  let trimmed := Text.trim raw
  match Numeral.read? trimmed with
  | some n => .number n.toFloat
  | none => .text (String.ofList trimmed)

/-- The number, if the value is one. -/
def number? : Value → Option Float
  | .number x => some x
  | .text _ => none

/-- The text with which the value is shown. -/
def display : Value → String
  | .number x => floatText x
  | .text s => s

end Value

/-- An entry of a document. -/
structure Item where
  /-- What it is called. -/
  label : String
  /-- Its value. -/
  value : Option Value := none
  /-- A longer description. -/
  desc : Option String := none
  /-- A reference to its icon. -/
  icon : Option String := none
  /-- The items below it. An item with an empty list of children differs from one without a list. -/
  children : Option (List Item) := none
deriving Inhabited, Repr

namespace Item

/-- The items below an item, none if it has no list of children. -/
def childList (item : Item) : List Item := item.children.getD []

/-- The size with which a chart draws the item: its value if that is a finite number above zero,
else zero. -/
def magnitude (item : Item) : Float :=
  match item.value with
  | some (.number x) => if x.isFinite && 0 < x then x else 0
  | _ => 0

end Item

/-- A document. -/
structure Document where
  /-- The name of the template it is drawn with. -/
  template : String
  /-- The heading above the drawing. -/
  title : Option String := none
  /-- The color scheme it asks for. -/
  theme : Option String := none
  /-- The items to draw, in order. -/
  items : List Item := []
deriving Inhabited, Repr

end Placard
