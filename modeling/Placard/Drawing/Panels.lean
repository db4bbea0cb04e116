import Placard.Drawing.Rows

set_option relaxedAutoImplicit false
set_option autoImplicit false

/-!
# Panels

Comparisons and quadrants have a fixed number of places. Items fill them in order; an item without
a place is not drawn.

## Main definitions

* `Placard.Drawing.swot`, `Placard.Drawing.binary`, `Placard.Drawing.quadrant`: the figures for the
  layouts with places.
-/

namespace Placard.Drawing

/-- The bullet for an item: its label. -/
def bullet (item : Item) : Figure := { shape := .listItem, text := some item.label }

/-- The bullet for an item of a comparison: its label, and its description behind a dash. -/
def describedBullet (item : Item) : Figure :=
  { bullet item with
    children := (item.desc.map fun d => .inlineText "compare-item-desc" (" - " ++ d)).toList }

/-- The bullets for the items below an item. There is a list, perhaps an empty one, whenever the
item has a list of children. -/
def bulletList (name : String) (entry : Item → Figure) (item : Item) : List Figure :=
  (item.children.map fun children =>
    { shape := .list, classes := [name], children := children.map entry }).toList

/-- The places of a SWOT analysis: heading and class name. -/
def swotPlaces : List (String × String) :=
  [("Strengths", "swot-s"), ("Weaknesses", "swot-w"), ("Opportunities", "swot-o"),
    ("Threats", "swot-t")]

/-- What an item shows at its place of a SWOT analysis, below the heading. -/
def swotContent (item : Item) : List Figure :=
  optionalText "swot-content" item.desc ++ bulletList "swot-list" bullet item

/-- The heading at a place: the label of its item, or the usual heading if there is no item or the
label is empty. -/
def swotHeading (usual : String) : Option Item → String
  | some item => if item.label.isEmpty then usual else item.label
  | none => usual

/-- A place of a SWOT analysis. -/
def swotPlace (place : String × String) (item : Option Item) : Figure :=
  { classes := ["swot-quadrant", place.2]
    children :=
      .textBlock "swot-header" (swotHeading place.1 item) :: (item.map swotContent).getD [] }

/-- Four places in a fixed order, whatever the number of items. -/
def swot (items : List Item) : Figure :=
  .block "swot" (swotPlaces.mapIdx fun index place => swotPlace place items[index]?)

/-- One of the two panels of a comparison. -/
def comparePanel (side : String) (item : Item) : Figure :=
  { classes := ["compare-side", side]
    children :=
      .textBlock "compare-header" item.label ::
        (optionalText "compare-desc" item.desc ++ bulletList "compare-list" describedBullet item) }

/-- The first two items side by side. -/
def binary (items : List Item) : Figure :=
  .block "binary-compare" (List.zipWith comparePanel ["compare-left", "compare-right"] items)

/-- The figure for a comparison layout. -/
def compare (items : List Item) : CompareLayout → Figure
  | .swot => swot items
  | .binary => binary items

/-- What an item shows in its cell. -/
def cellContent (item : Item) : List Figure :=
  .textBlock "quadrant-header" item.label ::
    (optionalText "quadrant-desc" item.desc ++ bulletList "quadrant-list" bullet item)

/-- The number of cells of a quadrant. -/
def quadrantCells : Nat := 4

/-- Four cells, those without an item empty. -/
def quadrant (items : List Item) : Figure :=
  .block "quadrant" <| (List.range quadrantCells).map fun index =>
    { classes := ["quadrant-cell", "quadrant-" ++ toString (index + 1)]
      children := (items[index]?.map cellContent).getD [] }

end Placard.Drawing
