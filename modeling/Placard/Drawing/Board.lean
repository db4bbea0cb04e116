import Placard.Drawing.Chart
import Placard.Drawing.Panels
import Placard.Drawing.Steps
import Placard.Drawing.Tree

set_option relaxedAutoImplicit false
set_option autoImplicit false

/-!
# The drawing of a document

The layout of a document stands inside a box that carries its colors, under its title.

## Main definitions

* `Placard.DrawOptions`: what the reader chooses.
* `Placard.Document.draw`: the figure of a document.
-/

namespace Placard

/-- What the reader chooses. -/
structure DrawOptions where
  /-- Light or dark. -/
  mode : Mode := .light
  /-- The color scheme, unless the document asks for one. -/
  scheme : BuiltinScheme := .standard
  /-- Whether the drawing is marked as animated. -/
  animated : Bool := false
deriving DecidableEq, Repr

/-- The figure of items in a layout. -/
def Layout.draw (items : List Item) (fill : Nat → String) : Layout → Figure
  | .list layout => Drawing.rows items layout
  | .sequence layout => Drawing.steps items layout
  | .hierarchy layout => Drawing.tree items layout
  | .chart layout => Drawing.chart items fill layout
  | .compare layout => Drawing.compare items layout
  | .quadrant => Drawing.quadrant items

namespace Document

/-- The name of the color scheme of a drawing: that of the document if the stylesheet has it, else
the reader's choice. -/
def schemeName (d : Document) (options : DrawOptions) (sheet : Stylesheet) : String :=
  match d.theme with
  | some theme => if sheet.hasScheme theme then theme else options.scheme.name
  | none => options.scheme.name

/-- The box with the layout of the document's items. -/
def content (d : Document) (fill : Nat → String) : Figure :=
  { classes :=
      ["content", "category-" ++ (Category.ofTemplate d.template).name, "template-" ++ d.template]
    children := [(Layout.ofTemplate d.template).draw d.items fill] }

/-- The figure of a document. -/
def draw (d : Document) (options : DrawOptions) (sheet : Stylesheet) : Figure :=
  let scheme := d.schemeName options sheet
  let colors := (sheet.palette scheme options.mode).roles
  { classes :=
      ["wrapper", options.mode.name, "scheme-" ++ scheme]
        ++ if options.animated then ["animated"] else []
    styles := colors.map fun (role, color) => ⟨"--" ++ role, .color color⟩
    children :=
      Drawing.optionalText "title" d.title ++ [d.content (sheet.pieColor options.mode)] }

end Document

end Placard
