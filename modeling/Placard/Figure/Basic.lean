import Placard.Figure.Wedge

set_option relaxedAutoImplicit false
set_option autoImplicit false

/-!
# Figures

What is drawn is a tree of figures. A figure has a shape, class names, styles, perhaps a text, and
the figures inside it.

## Main definitions

* `Placard.Shape`, `Placard.Style`: what a figure draws, and the properties it is drawn with.
* `Placard.Figure`: a figure.
* `Placard.Figure.hasClass`, `Placard.Figure.style?`: what a figure carries.
* `Placard.Figure.find?`, `Placard.Figure.findAll`: search by class name.
* `Placard.Figure.collect`: the same search, with a list that grows as figures are found.
-/

namespace Placard

/-- The part of the plane that a surface shows. -/
structure ViewBox where
  /-- The left edge. -/
  x : Float
  /-- The upper edge. -/
  y : Float
  /-- The distance from the left edge to the right one. -/
  width : Float
  /-- The distance from the upper edge to the lower one. -/
  height : Float
deriving Repr

/-- What a figure draws. -/
inductive Shape where
  /-- A box of its own. -/
  | block
  /-- A run of text. -/
  | inline
  /-- A list with bullets. -/
  | list
  /-- An entry of a list with bullets. -/
  | listItem
  /-- A decorative sign. -/
  | glyph (sign : String)
  /-- A place for the icon with the given reference. -/
  | icon (reference : String)
  /-- A surface for vector drawing. -/
  | chart (box : ViewBox)
  /-- A slice of a pie. -/
  | wedge (w : Wedge)
deriving Repr

/-- The value of a style property. -/
inductive StyleValue where
  /-- A percentage. -/
  | percent (x : Float)
  /-- A color. -/
  | color (c : String)
  /-- A whole number. -/
  | index (n : Nat)
deriving Repr

/-- The percentage, if the value is one. -/
def StyleValue.percent? : StyleValue → Option Float
  | .percent x => some x
  | _ => none

/-- The whole number, if the value is one. -/
def StyleValue.index? : StyleValue → Option Nat
  | .index n => some n
  | _ => none

/-- A style property. -/
structure Style where
  /-- Its name; a custom property's starts with two dashes. -/
  name : String
  /-- Its value. -/
  value : StyleValue
deriving Repr

/-- A figure. -/
structure Figure where
  /-- What it draws. -/
  shape : Shape := .block
  /-- Its class names. -/
  classes : List String := []
  /-- Its text. -/
  text : Option String := none
  /-- Its style properties. -/
  styles : List Style := []
  /-- The figures inside it. -/
  children : List Figure := []
deriving Inhabited, Repr

namespace Figure

/-- A box with one class name and the given figures inside. -/
def block (name : String) (children : List Figure) : Figure :=
  { classes := [name], children }

/-- A box with one class name and a text. -/
def textBlock (name text : String) : Figure := { classes := [name], text := some text }

/-- A run of text with one class name. -/
def inlineText (name text : String) : Figure :=
  { shape := .inline, classes := [name], text := some text }

/-- A decorative sign with one class name. -/
def sign (name glyph : String) : Figure := { shape := .glyph glyph, classes := [name] }

/-- The figure with one more class name. -/
def addClass (f : Figure) (name : String) : Figure := { f with classes := f.classes ++ [name] }

/-- The figure with the given text in place of its own. -/
def setText (f : Figure) (text : String) : Figure := { f with text := some text }

/-- The figure with one more style property. -/
def addStyle (f : Figure) (name : String) (value : StyleValue) : Figure :=
  { f with styles := f.styles ++ [⟨name, value⟩] }

/-- The figure with one more figure inside, after the others. -/
def push (f child : Figure) : Figure := { f with children := f.children ++ [child] }

/-- Whether the figure carries the class name. -/
def hasClass (f : Figure) (name : String) : Bool := f.classes.contains name

/-- The value of the first style property with the given name. -/
def style? (f : Figure) (name : String) : Option StyleValue :=
  (f.styles.find? (·.name == name)).map (·.value)

/-- The figures directly inside that carry the class name. -/
def childrenWithClass (f : Figure) (name : String) : List Figure :=
  f.children.filter (·.hasClass name)

mutual

/-- The figures in the tree that carry the class name, a figure before those inside it. -/
def findAll (name : String) : Figure → List Figure
  | ⟨shape, classes, text, styles, children⟩ =>
    let below := findAllIn name children
    if classes.contains name then ⟨shape, classes, text, styles, children⟩ :: below else below

/-- The figures in the trees that carry the class name. -/
def findAllIn (name : String) : List Figure → List Figure
  | [] => []
  | f :: fs => findAll name f ++ findAllIn name fs

end

mutual

/-- The figures found before, and behind them those in the tree that carry the class name. -/
def collect (name : String) (found : List Figure) : Figure → List Figure
  | ⟨shape, classes, text, styles, children⟩ =>
    let found' :=
      if classes.contains name then found ++ [⟨shape, classes, text, styles, children⟩] else found
    collectIn name found' children

/-- The figures found before, and behind them those in the trees that carry the class name. -/
def collectIn (name : String) (found : List Figure) : List Figure → List Figure
  | [] => found
  | f :: fs => collectIn name (collect name found f) fs

end

mutual

/-- The first figure in the tree that carries the class name. The search stops there. -/
def find? (name : String) : Figure → Option Figure
  | ⟨shape, classes, text, styles, children⟩ =>
    if classes.contains name then some ⟨shape, classes, text, styles, children⟩
    else findIn? name children

/-- The first figure in the trees that carries the class name. -/
def findIn? (name : String) : List Figure → Option Figure
  | [] => none
  | f :: fs =>
    match find? name f with
    | some found => some found
    | none => findIn? name fs

end

end Figure

end Placard
