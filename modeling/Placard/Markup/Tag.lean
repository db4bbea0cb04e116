import Placard.Figure.Basic
import Placard.Markup.Escape

set_option relaxedAutoImplicit false
set_option autoImplicit false

/-!
# Tags

A figure is written as elements, one on a row. Each row knows how deep it is nested; whether it is
indented by that depth is decided when the rows are put together.

## Main definitions

* `Placard.Markup.Tag`, `Placard.Markup.Row`: what stands on a row.
* `Placard.Figure.tagRows`: the rows of a figure.
-/

namespace Placard

namespace Markup

/-- An attribute of an element. Its value is markup already. -/
structure Attribute where
  /-- Its name. -/
  name : String
  /-- Its value. -/
  value : String
deriving DecidableEq, Repr

/-- An attribute as it stands in a tag. -/
def Attribute.write (a : Attribute) : String := " " ++ a.name ++ "=\"" ++ a.value ++ "\""

/-- What stands on a row. The inner texts are markup already. -/
inductive Tag where
  /-- An element on one row. -/
  | whole (name : String) (attributes : List Attribute) (inner : String)
  /-- The start of an element, with the text at its start. -/
  | opening (name : String) (attributes : List Attribute) (inner : String)
  /-- The end of an element. -/
  | closing (name : String)
  /-- An element that holds nothing and closes itself. -/
  | empty (name : String) (attributes : List Attribute)
deriving DecidableEq, Repr

/-- The name and the attributes of an element, as they stand in its tag. -/
def writeStart (name : String) (attributes : List Attribute) : String :=
  "<" ++ name ++ String.join (attributes.map Attribute.write)

/-- A tag in markup. -/
def Tag.write : Tag → String
  | .whole name attributes inner =>
    writeStart name attributes ++ ">" ++ inner ++ "</" ++ name ++ ">"
  | .opening name attributes inner => writeStart name attributes ++ ">" ++ inner
  | .closing name => "</" ++ name ++ ">"
  | .empty name attributes => writeStart name attributes ++ "/>"

/-- A tag and the number of elements around it. -/
structure Row where
  /-- How many elements are around it. -/
  depth : Nat
  /-- What stands on it. -/
  tag : Tag
deriving DecidableEq, Repr

/-- A style property in a style attribute. The name of a custom property carries the class prefix
behind its dashes. -/
def writeStyle (classPrefix : String) (s : Style) : String :=
  let name :=
    match s.name.toList with
    | '-' :: '-' :: rest => "--" ++ classPrefix ++ String.ofList rest
    | _ => s.name
  let value :=
    match s.value with
    | .percent x => floatText x ++ "%"
    | .color c => c
    | .index n => toString n
  name ++ ": " ++ value

/-- The class attribute, if there are class names. Each carries the class prefix. -/
def classAttribute (classPrefix : String) (classes : List String) : List Attribute :=
  if classes.isEmpty then []
  else [⟨"class", escape (" ".intercalate (classes.map (classPrefix ++ ·)))⟩]

/-- The style attribute, if there are style properties. -/
def styleAttribute (classPrefix : String) (styles : List Style) : List Attribute :=
  if styles.isEmpty then []
  else [⟨"style", escape ("; ".intercalate (styles.map (writeStyle classPrefix)))⟩]

/-- The text of a view box. -/
def writeBox (b : ViewBox) : String :=
  " ".intercalate [floatText b.x, floatText b.y, floatText b.width, floatText b.height]

/-- An element with the rows of the elements inside it, on one row if there are none. -/
def element (depth : Nat) (name : String) (attributes : List Attribute) (inner : String)
    (below : List Row) : List Row :=
  if below.isEmpty then [⟨depth, .whole name attributes inner⟩]
  else ⟨depth, .opening name attributes inner⟩ :: below ++ [⟨depth, .closing name⟩]

end Markup

namespace Figure

open Markup

mutual

/-- The rows of a figure at a depth. Signs, icons and slices show nothing that is inside them. -/
def tagRows (classPrefix : String) (depth : Nat) : Figure → List Row
  | ⟨shape, classes, text, styles, children⟩ =>
    let attributes := classAttribute classPrefix classes ++ styleAttribute classPrefix styles
    let inner := escape (text.getD "")
    let below := tagRowsAll classPrefix (depth + 1) children
    match shape with
    | .block => element depth "div" attributes inner below
    | .inline => element depth "span" attributes inner below
    | .list => element depth "ul" attributes inner below
    | .listItem => element depth "li" attributes inner below
    | .glyph sign => [⟨depth, .whole "span" attributes sign⟩]
    | .icon reference =>
      [⟨depth, .whole "span" [⟨"class", "iconify"⟩, ⟨"data-icon", escape reference⟩] ""⟩]
    | .wedge w => [⟨depth, .empty "path" (attributes ++ [⟨"d", w.path⟩, ⟨"fill", escape w.fill⟩])⟩]
    | .chart box =>
      let surface : List Attribute :=
        [⟨"xmlns", "http://www.w3.org/2000/svg"⟩, ⟨"viewBox", writeBox box⟩]
      ⟨depth, .opening "svg" (surface ++ attributes) ""⟩ :: below ++ [⟨depth, .closing "svg"⟩]

/-- The rows of figures at a depth. -/
def tagRowsAll (classPrefix : String) (depth : Nat) : List Figure → List Row
  | [] => []
  | f :: fs => tagRows classPrefix depth f ++ tagRowsAll classPrefix depth fs

end

end Figure

end Placard
