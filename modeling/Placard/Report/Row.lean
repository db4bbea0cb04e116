import Placard.Text.Columns
import Placard.Text.White

set_option relaxedAutoImplicit false
set_option autoImplicit false

/-!
# Rows

The lines of a source as a report counts them, and the room they take on a terminal. More characters
end a row than end a line of a document.

## Main definitions

* `Placard.Report.Row`: a row.
* `Placard.Report.rows`: the rows of a source, and `Placard.Report.rowAt`, the one at an offset.
* `Placard.Report.Row.columnsAt`: the columns of a character of a row.
-/

namespace Placard.Report

/-- The characters that end a row. A carriage return and a line feed behind it end one row
together. -/
def endsRow (c : Char) : Bool :=
  c == '\n' || c == '\r' || c == '\x0b' || c == '\x0c' || c == '\u0085' || c == '\u2028'
    || c == '\u2029'

/-- A text cut behind each end of a row. -/
def cutRows : List Char → List (List Char)
  | [] => []
  | '\r' :: '\n' :: cs => ['\r', '\n'] :: cutRows cs
  | c :: cs =>
    if endsRow c then [c] :: cutRows cs
    else
      match cutRows cs with
      | [] => [[c]]
      | piece :: pieces => (c :: piece) :: pieces

/-- The pieces of a text, joined, are the text. -/
theorem flatten_cutRows (cs : List Char) : (cutRows cs).flatten = cs := by
  fun_induction cutRows cs <;> simp_all

/-- A row of a source. -/
structure Row where
  /-- Its number, from one. -/
  number : Nat
  /-- How many characters stand before it. -/
  start : Nat
  /-- How many characters it has, those that end it among them. -/
  length : Nat
  /-- Its text without white space at the end. -/
  text : List Char
deriving DecidableEq, Repr

/-- The offset behind a row. -/
def Row.stop (row : Row) : Nat := row.start + row.length

/-- Pieces of a source as rows, the first with the given number and start. -/
def numberRows (number start : Nat) : List (List Char) → List Row
  | [] => []
  | piece :: pieces =>
    ⟨number, start, piece.length, Text.trimEnd piece⟩ ::
      numberRows (number + 1) (start + piece.length) pieces

/-- The rows of a source. -/
def rows (source : List Char) : List Row :=
  numberRows 1 0 (cutRows source)

/-- The row that holds the character at an offset. -/
def rowAt (source : List Char) (offset : Nat) : Row :=
  (((rows source).filter (·.start ≤ offset)).getLast?).getD ⟨1, 0, 0, []⟩

/-- The number of columns between two tab stops. -/
def tabWidth : Nat := 4

/-- How many columns a character takes at an index of its row. A tab reaches to the next multiple of
`tabWidth`, and other white space takes one column. -/
def charColumns (index : Nat) (c : Char) : Nat :=
  if c = '\t' then tabWidth - index % tabWidth
  else if Text.isWhite c then 1
  else Text.columns c

/-- How many columns stand at an index of a row, one behind its text. -/
def Row.columnsAt (row : Row) (index : Nat) : Nat :=
  match row.text[index]? with
  | some c => charColumns index c
  | none => 1

end Placard.Report
