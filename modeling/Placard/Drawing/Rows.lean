import Placard.Document.Basic
import Placard.Drawing.Icon
import Placard.Template

set_option relaxedAutoImplicit false
set_option autoImplicit false

/-!
# Plain lists

Items one after another: as nodes joined by arrows, as cards, or as a checklist.

## Main definitions

* `Placard.Drawing.rows`: the figure for a list layout.
-/

namespace Placard.Drawing

/-- A box for a text that may be absent, with the given class name. -/
def optionalText (name : String) (text : Option String) : List Figure :=
  (text.map (Figure.textBlock name)).toList

/-- The sign between two nodes. -/
def arrowSign : String := "→"

/-- The sign in front of a row of a checklist. -/
def checkSign : String := "✓"

/-- A numbered node, with an arrow behind it unless it is the last of `count`. -/
def arrowNode (count index : Nat) (item : Item) : Figure :=
  .block "arrow-item" <|
    [.textBlock "step-number" (toString (index + 1)),
      .block "item-content"
        (.textBlock "item-label" item.label :: optionalText "item-desc" item.desc)]
      ++ if index + 1 < count then [.sign "arrow" arrowSign] else []

/-- A card with icon, label, description and value, of which the label is always there. -/
def card (name : String) (item : Item) : Figure :=
  .block name <|
    (item.icon.map fun icon => .block "card-icon" [Icon.figure icon]).toList
      ++ [.textBlock "card-label" item.label]
      ++ optionalText "card-desc" item.desc
      ++ optionalText "card-value" (item.value.map Value.display)

/-- A row of a checklist. -/
def checkRow (item : Item) : Figure :=
  .block "done-item"
    [.sign "check" checkSign,
      .block "done-content"
        (.textBlock "done-label" item.label :: optionalText "done-desc" item.desc)]

/-- The figure for a list layout. -/
def rows (items : List Item) : ListLayout → Figure
  | .horizontalArrow => .block "horizontal-arrow-list" (items.mapIdx (arrowNode items.length))
  | .grid compact =>
    .block "grid-list" (items.map (card (if compact then "compact-card" else "badge-card")))
  | .doneList => .block "done-list" (items.map checkRow)

end Placard.Drawing
