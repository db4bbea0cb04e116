set_option relaxedAutoImplicit false
set_option autoImplicit false

/-!
# Paint

The colors in which a terminal shows the parts of a report.

## Main definitions

* `Placard.Report.Color`: the colors of a report.
* `Placard.Report.paint`: a text in a color.
-/

namespace Placard.Report

/-- The colors of a report. -/
inductive Color where
  /-- What is wrong. -/
  | red
  /-- What stands beside it. -/
  | pale
  /-- The frame. -/
  | gray
  /-- The frame next to a remark. -/
  | darkGray
deriving DecidableEq, Repr

/-- The terminal's code for a color. -/
def Color.code : Color → String
  | .red => "31"
  | .pale => "38;5;249"
  | .gray => "38;5;246"
  | .darkGray => "38;5;240"

/-- A text in a color. -/
def paint (color : Color) (text : String) : String :=
  "\x1b[" ++ color.code ++ "m" ++ text ++ "\x1b[0m"

end Placard.Report
