import Placard.Drawing.Rows

set_option relaxedAutoImplicit false
set_option autoImplicit false

/-!
# Ordered steps

All sequences draw the same kind of step. They differ in its marker, in whether the steps change
sides, and in what decorates a step.

## Main definitions

* `Placard.Drawing.StepStyle`: what sets the sequences apart.
* `Placard.Drawing.steps`: the figure for a sequence layout.
-/

namespace Placard.Drawing

/-- What sets one kind of sequence apart from another. -/
structure StepStyle where
  /-- The class name of the whole. -/
  container : String
  /-- The class name of a step. -/
  step : String
  /-- The start of the class names of a step's parts. -/
  family : String
  /-- Whether a step has a dot in place of its number. -/
  dotted : Bool := false
  /-- Whether the steps change sides. -/
  alternating : Bool := false
  /-- Whether lines join the steps. -/
  connected : Bool := false
  /-- Whether a step carries its index as a style property. -/
  indexed : Bool := false
  /-- Whether the texts of a step stand in a box of their own. -/
  boxed : Bool := true
  /-- Whether the texts of a step are underlined. -/
  underlined : Bool := false
deriving DecidableEq, Repr

namespace StepStyle

/-- The style of a sequence layout. -/
def ofLayout : SequenceLayout → StepStyle
  | .steps => { container := "simple-steps", step := "step", family := "step", connected := true }
  | .timeline =>
    { container := "timeline", step := "timeline-entry", family := "timeline", dotted := true,
      alternating := true }
  | .snake =>
    { container := "snake-steps", step := "snake-step", family := "snake", alternating := true }
  | .ascending =>
    { container := "ascending-steps", step := "ascending-step", family := "ascending",
      indexed := true, boxed := false }
  | .zigzag =>
    { container := "zigzag-steps", step := "zigzag-step", family := "zigzag", alternating := true,
      underlined := true }

/-- The class name of a part of a step. -/
def part (style : StepStyle) (name : String) : String := style.family ++ "-" ++ name

end StepStyle

/-- The side of a step whose sequence changes sides: left first. -/
def side (index : Nat) : String := if index % 2 = 0 then "left" else "right"

/-- The number of a step, or a dot. -/
def stepMarker (style : StepStyle) (index : Nat) : Figure :=
  if style.dotted then .block (style.part "dot") []
  else .textBlock (style.part "num") (toString (index + 1))

/-- The texts of a step, with the line under them. -/
def stepTexts (style : StepStyle) (item : Item) : List Figure :=
  .textBlock (style.part "label") item.label :: optionalText (style.part "desc") item.desc
    ++ if style.underlined then [.block "underline" []] else []

/-- A step, with a line behind it unless it is the last of `count`. -/
def step (style : StepStyle) (count index : Nat) (item : Item) : Figure :=
  let texts := stepTexts style item
  let shown := if style.boxed then [.block (style.part "content") texts] else texts
  { classes := style.step :: if style.alternating then [side index] else []
    styles := if style.indexed then [⟨"--step-index", .index index⟩] else []
    children :=
      stepMarker style index :: shown
        ++ if style.connected && decide (index + 1 < count) then [.block "step-line" []] else [] }

/-- The figure for a sequence layout. -/
def steps (items : List Item) (layout : SequenceLayout) : Figure :=
  let style := StepStyle.ofLayout layout
  .block style.container (items.mapIdx (step style items.length))

end Placard.Drawing
