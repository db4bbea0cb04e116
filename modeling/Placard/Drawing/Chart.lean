import Placard.Decimal.Fixed
import Placard.Drawing.Rows
import Placard.Stylesheet.Basic

set_option relaxedAutoImplicit false
set_option autoImplicit false

/-!
# Charts

A pie shows the share of each item in the total, bars and columns compare the items with the
greatest one. The arithmetic is the same for every number type; charts are drawn with 64-bit
numbers.

## Main definitions

* `Placard.Chart.slices`, `Placard.Chart.scale`: shares of a circle, and percentages of a maximum.
* `Placard.Chart.wedges`, `Placard.Chart.legendText`: the parts of a pie.
* `Placard.Drawing.chart`: the figure for a chart layout.
-/

namespace Placard

namespace Chart

section Arithmetic

variable {α : Type} [Add α] [Mul α] [Div α] [OfNat α 0] [LT α] [DecidableLT α]

/-- The sum of the magnitudes, added up from the left. -/
def total (magnitudes : List α) : α := magnitudes.foldl (· + ·) 0

/-- The angle that a magnitude takes of a full turn, none if the total is not above zero. -/
def sweep [OfNat α 2] (pi total magnitude : α) : α :=
  if 0 < total then magnitude / total * 2 * pi else 0

/-- The slices of a pie in the order of the magnitudes, the first one starting at `start`. -/
def slices [OfNat α 2] (pi start : α) (magnitudes : List α) : List (Slice α) :=
  Slice.tile start (magnitudes.map (sweep pi (total magnitudes)))

/-- The greatest of the magnitudes, zero if none is above it. -/
def greatest (magnitudes : List α) : α := magnitudes.foldl (fun a b => if a < b then b else a) 0

/-- A value as a percentage of a maximum, zero if the maximum is not above zero. -/
def scale [OfNat α 100] (value max : α) : α := if 0 < max then value / max * 100 else 0

/-- The magnitudes as percentages of the greatest one. -/
def percentages [OfNat α 100] (magnitudes : List α) : List α :=
  magnitudes.map fun m => scale m (greatest magnitudes)

end Arithmetic

/-- The angle of the first edge of a pie: straight up. -/
def top : Float := -halfTurn / 2

/-- The slices for items, in their order and clockwise from the top, the one at an index with the
color for that index. -/
def wedges (items : List Item) (fill : Nat → String) : List Wedge :=
  (slices halfTurn top (items.map Item.magnitude)).mapIdx fun index s =>
    { s with fill := fill index }

/-- The entry for an item in the legend of a pie: its label, and its share with one decimal
place. -/
def legendText (label : String) (value total : Float) : String :=
  let share := if 0 < total then tenthsText (value / total * 100) else "0"
  label ++ " (" ++ share ++ "%)"

/-- The surface that shows the unit circle. -/
def pieBox : ViewBox := { x := -1, y := -1, width := 2, height := 2 }

end Chart

namespace Drawing

/-- The entry for an item in the legend of a pie. -/
def legendEntry (total : Float) (item : Item) (wedge : Wedge) : Figure :=
  .block "legend-item"
    [{ classes := ["legend-color"], styles := [⟨"background-color", .color wedge.fill⟩] },
      .inlineText "legend-label" (Chart.legendText item.label item.magnitude total)]

/-- The figure for a slice. -/
def pieSlice (wedge : Wedge) : Figure := { shape := .wedge wedge, classes := ["pie-slice"] }

/-- A pie and its legend. -/
def pie (items : List Item) (fill : Nat → String) : Figure :=
  let wedges := Chart.wedges items fill
  let total := Chart.total (items.map Item.magnitude)
  .block "pie-chart"
    [{ shape := .chart Chart.pieBox, classes := ["pie-svg"], children := wedges.map pieSlice },
      .block "pie-legend" (List.zipWith (legendEntry total) items wedges)]

/-- The text of an item's value, empty if it has none. -/
def valueText (item : Item) : String := (item.value.map Value.display).getD ""

/-- A row with the bar of an item. -/
def barRow (item : Item) (percent : Float) : Figure :=
  .block "bar-row"
    [.textBlock "bar-label" item.label,
      .block "bar-wrapper"
        [{ classes := ["bar"], styles := [⟨"width", .percent percent⟩] },
          .textBlock "bar-value" (valueText item)]]

/-- The column of an item. -/
def column (item : Item) (percent : Float) : Figure :=
  .block "column-wrapper"
    [{ classes := ["column"], styles := [⟨"height", .percent percent⟩],
       children := [.textBlock "column-value" (valueText item)] },
      .textBlock "column-label" item.label]

/-- The figures of items drawn with their percentages of the greatest magnitude. -/
def scaled (draw : Item → Float → Figure) (items : List Item) : List Figure :=
  List.zipWith draw items (Chart.percentages (items.map Item.magnitude))

/-- The figure for a chart layout; `fill` gives the color of the slice at an index. -/
def chart (items : List Item) (fill : Nat → String) : ChartLayout → Figure
  | .pie => pie items fill
  | .bar => .block "bar-chart" (scaled barRow items)
  | .column => .block "column-chart" [.block "columns" (scaled column items)]

end Drawing

end Placard
