import Placard.Markup.Page

set_option relaxedAutoImplicit false
set_option autoImplicit false

/-!
# Markup in the making

A writer is given figures one after another and keeps the elements written so far, each behind its
indentation. It does not see how deep it is in a tree, it counts: the indentation grows when an
element is opened and shrinks when one is closed.

## Main definitions

* `Placard.Markup.Writer`: the elements written so far, and the current indentation.
* `Placard.Markup.Writer.add`: writes a figure.
* `Placard.Markup.Writer.build`: the markup of what has been written.
-/

namespace Placard.Markup

/-- Markup in the making. -/
structure Writer where
  /-- How the markup is put together. -/
  options : PageOptions
  /-- The elements written so far, each behind its indentation. -/
  elements : List String
  /-- How far the next element is indented. -/
  indent : Nat

namespace Writer

/-- A writer that has not written anything. The body of a document of its own is indented. -/
def start (options : PageOptions) : Writer where
  options
  elements := []
  indent := if options.standalone then 1 else 0

/-- Writes a tag on a row of its own. -/
def push (w : Writer) (t : Tag) : Writer :=
  { w with elements := w.elements ++ [indentation w.options.pretty w.indent ++ t.write] }

/-- Writes the start of an element, and indents what follows. -/
def openElement (w : Writer) (name : String) (attributes : List Attribute) (inner : String) :
    Writer :=
  let written := w.push (.opening name attributes inner)
  { written with indent := written.indent + 1 }

/-- Writes the end of an element, indented less than what is inside it. Without any indentation it
stays as it is. -/
def closeElement (w : Writer) (name : String) : Writer :=
  push { w with indent := w.indent - 1 } (.closing name)

mutual

/-- Writes a figure. -/
def add (w : Writer) : Figure → Writer
  | ⟨shape, classes, text, styles, children⟩ =>
    let classPrefix := w.options.classPrefix
    let attributes := classAttribute classPrefix classes ++ styleAttribute classPrefix styles
    let inner := escape (text.getD "")
    let element (name : String) : Writer :=
      if children.isEmpty then w.push (.whole name attributes inner)
      else ((w.openElement name attributes inner).addAll children).closeElement name
    match shape with
    | .block => element "div"
    | .inline => element "span"
    | .list => element "ul"
    | .listItem => element "li"
    | .glyph sign => w.push (.whole "span" attributes sign)
    | .icon reference =>
      w.push (.whole "span" [⟨"class", "iconify"⟩, ⟨"data-icon", escape reference⟩] "")
    | .wedge s =>
      w.push (.empty "path" (attributes ++ [⟨"d", s.path⟩, ⟨"fill", escape s.fill⟩]))
    | .chart box =>
      let surface : List Attribute :=
        [⟨"xmlns", "http://www.w3.org/2000/svg"⟩, ⟨"viewBox", writeBox box⟩]
      ((w.openElement "svg" (surface ++ attributes) "").addAll children).closeElement "svg"

/-- Writes figures one after another. -/
def addAll (w : Writer) : List Figure → Writer
  | [] => w
  | f :: fs => (w.add f).addAll fs

end

/-- The markup of what has been written. -/
def build (w : Writer) : String :=
  let body := (lineEnd w.options.pretty).intercalate w.elements
  if w.options.standalone then standalonePage w.options.pretty w.options.classPrefix body else body

end Writer

end Placard.Markup
