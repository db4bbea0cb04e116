import Placard.Report.Paint
import Placard.Report.Row

set_option relaxedAutoImplicit false
set_option autoImplicit false

/-!
# Excerpts

An excerpt shows in a frame where in a source a part of it is. A part within one row has a rule
under it, and a remark hangs on the middle of the rule. A part of several rows has an arrow to its
first row and one to its last, and the remark stands below that.

## Main definitions

* `Placard.Report.excerpt`: the lines of an excerpt.
-/

namespace Placard.Report

/-- A text so many times. -/
def times (n : Nat) (text : String) : String := String.join (List.replicate n text)

/-- Spaces. -/
def spaces (n : Nat) : String := times n " "

/-- A red dash. -/
def dash : String := paint .red "─"

/-- A character of a source as an excerpt shows it, at an index of its row. White space is shown as
spaces, and any other character once, whatever columns it takes. -/
def showChar (color : Color) (index : Nat) (c : Char) : String :=
  if Text.isWhite c then times (charColumns index c) (paint color " ")
  else paint color c.toString

/-- The text of a row, where the part of the source from `start` to `stop` is red. -/
def Row.shown (row : Row) (start stop : Nat) : String :=
  String.join <| row.text.mapIdx fun index c =>
    let offset := row.start + index
    showChar (if start ≤ offset ∧ offset < stop then .red else .pale) index c

/-- What stands at some columns: `mark` in the first of them and `fill` in the others. -/
def cell (mark fill : String) : Nat → String
  | 0 => ""
  | n + 1 => mark ++ times n fill

/-- What stands below the first `count` characters of a row, given the mark and the fill of each. -/
def Row.below (row : Row) (count : Nat) (drawn : Nat → String × String) : String :=
  String.join <| (List.range count).map fun index =>
    cell (drawn index).1 (drawn index).2 (row.columnsAt index)

/-- The rule under the part from `first` to `last`, where the remark hangs at `middle`. An empty
part has no rule. -/
def Row.rule (row : Row) (first last middle : Nat) : String :=
  row.below (last + 2) fun index =>
    if index = middle then
      if first = last then (paint .red "│", paint .red " ") else (paint .red "┬", dash)
    else if first ≤ index ∧ index < last then (dash, dash)
    else (" ", " ")

/-- The line from the middle of the rule to the remark. -/
def Row.hook (row : Row) (last middle : Nat) : String :=
  row.below (last + 2) fun index =>
    if index < middle then (" ", " ")
    else if index = middle then (paint .red "╰", dash)
    else (dash, dash)

/-- The margin of a line that shows a row. -/
def numbered (width : Nat) (row : Row) : String :=
  let number := toString row.number
  " " ++ paint .gray (spaces (width - number.length) ++ number ++ " │") ++ " "

/-- The margin of another line. -/
def unnumbered (width : Nat) (bar : String) : String :=
  " " ++ paint .darkGray (spaces (width + 1) ++ bar) ++ " "

/-- The arrow to a row that begins or ends a part of several rows. -/
def arrow (corner : String) : String :=
  paint .red corner ++ dash ++ paint .red "▶" ++ paint .red " "

/-- The lines for a part within one row. A part that reaches behind the row is left out. -/
def inlineLines (width : Nat) (row : Row) (start stop : Nat) (remark : String) : List String :=
  let margin := unnumbered width "│"
  if stop ≤ row.stop then
    let first := start - row.start
    let last := stop - row.start
    let middle := (start + stop) / 2 - row.start
    [numbered width row ++ row.shown start stop,
      margin ++ row.rule first last middle,
      margin ++ row.hook last middle ++ " " ++ remark]
  else [margin]

/-- The lines for the row that ends a part of several rows. -/
def closingLines (width : Nat) (row : Row) (start stop : Nat) (remark : String) : List String :=
  let margin := unnumbered width "│"
  let count := row.length + 2
  [numbered width row ++ arrow "├" ++ row.shown start stop,
    margin ++ paint .red "│" ++ spaces 3 ++ row.below count fun _ => (" ", " "),
    margin ++ paint .red "╰" ++ times 3 dash ++ (row.below count fun _ => (dash, dash)) ++ " "
      ++ remark]

/-- The lines for a part from one row to a later one. All rows between them are one line. A part
that reaches behind the later row has no end. -/
def spanningLines (width : Nat) (opening closing : Row) (start stop : Nat) (remark : String) :
    List String :=
  let ended := decide (stop ≤ closing.stop)
  let between := closing.number - opening.number - (if ended then 1 else 0)
  let hidden := unnumbered width "┆" ++ paint .red "┆" ++ spaces 3
  (numbered width opening ++ arrow "╭" ++ opening.shown start stop)
    :: (if between = 0 then [] else [hidden])
    ++ (if ended then closingLines width closing start stop remark else [])

/-- The lines that show where in a source the part from `start` to `stop` is. -/
def excerpt (source : List Char) (filename : String) (start stop : Nat) (remark : String) :
    List String :=
  let opening := rowAt source start
  let closing := rowAt source (max start (stop - 1))
  let width := (toString closing.number).length
  let margin := spaces (width + 2)
  let place := filename ++ ":" ++ toString opening.number ++ ":"
    ++ toString (start - opening.start + 1)
  let lines :=
    if opening.number = closing.number then inlineLines width opening start stop remark
    else spanningLines width opening closing start stop remark
  [margin ++ paint .gray "╭" ++ paint .gray "─" ++ paint .gray "[" ++ place ++ paint .gray "]",
    margin ++ paint .gray "│"]
    ++ lines ++ [paint .gray (times (width + 2) "─" ++ "╯")]

/-- Whether the part from `start` to `stop` fits into a source of the given length. -/
def fits (length start stop : Nat) : Bool :=
  decide (0 < length ∧ start ≤ length ∧ (stop ≤ start ∨ stop - 1 ≤ length))

end Placard.Report
