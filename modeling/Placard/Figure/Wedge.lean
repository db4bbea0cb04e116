import Placard.Decimal.Shortest

set_option relaxedAutoImplicit false
set_option autoImplicit false

/-!
# Slices of the unit circle

A slice starts at an angle and sweeps over another one, in radians and clockwise on the screen. The
arithmetic is the same for every number type, so that slices can be reasoned about exactly and drawn
with 64-bit numbers.

## Main definitions

* `Placard.Slice`: a slice; `Placard.Slice.tile`: slices side by side.
* `Placard.Wedge`: a slice to be drawn, with its color; `Placard.Wedge.path`: its outline.
-/

namespace Placard

/-- A slice of a circle. -/
structure Slice (α : Type) where
  /-- The angle of its first edge. -/
  start : α
  /-- The angle between its edges. -/
  sweep : α
deriving DecidableEq, Repr

namespace Slice

variable {α : Type}

/-- The angle of the last edge. -/
def finish [Add α] (s : Slice α) : α := s.start + s.sweep

/-- The part of the circle that the slice covers, where `pi` is half a turn. -/
def fraction [Mul α] [Div α] [OfNat α 2] (pi : α) (s : Slice α) : α := s.sweep / (2 * pi)

/-- Slices with the given sweeps, each starting where the one before it ends. -/
def tile [Add α] (start : α) : List α → List (Slice α)
  | [] => []
  | sweep :: sweeps => ⟨start, sweep⟩ :: tile (start + sweep) sweeps

/-- Whether the slice covers the whole circle, up to `slack`. -/
def isFullTurn [Mul α] [Sub α] [OfNat α 2] [LE α] [DecidableLE α] (pi slack : α) (s : Slice α) :
    Bool :=
  decide (2 * pi - slack ≤ s.sweep)

end Slice

/-- Half a turn in radians. -/
def halfTurn : Float := 3.141592653589793

/-- How much a slice may fall short of the full turn and still be drawn as one. -/
def fullTurnSlack : Float := 1e-9

/-- A point of the plane. -/
structure Point where
  /-- The distance to the right. -/
  x : Float
  /-- The distance downwards. -/
  y : Float
deriving Repr

/-- The point of the unit circle at an angle. -/
def Point.onUnitCircle (angle : Float) : Point := { x := angle.cos, y := angle.sin }

/-- The coordinates of a point, as they stand in a path. -/
def Point.text (p : Point) : String := floatText p.x ++ " " ++ floatText p.y

/-- A slice to be drawn. -/
structure Wedge extends Slice Float where
  /-- The color it is filled with. -/
  fill : String
deriving Repr

namespace Wedge

/-- An arc of the unit circle to a point, the long way round or the short one. -/
def arcTo (long : Bool) (p : Point) : String :=
  "A 1 1 0 " ++ (if long then "1" else "0") ++ " 1 " ++ p.text

/-- The arcs along the rim of the slice. One arc from a point to itself would draw nothing, so a
full turn is drawn as two halves. -/
def arcs (w : Wedge) : List String :=
  if w.isFullTurn halfTurn fullTurnSlack then
    [arcTo false (.onUnitCircle (w.start + halfTurn)), arcTo false (.onUnitCircle w.start)]
  else
    [arcTo (halfTurn < w.sweep) (.onUnitCircle w.finish)]

/-- The outline of the slice: from the center to the rim, along the rim and back. -/
def path (w : Wedge) : String :=
  " ".intercalate (["M 0 0", "L " ++ (Point.onUnitCircle w.start).text] ++ w.arcs ++ ["Z"])

end Wedge

end Placard
