import Placard.Keyword

set_option relaxedAutoImplicit false
set_option autoImplicit false

/-!
# Lines

A source is read line by line. Each line knows where it stands in the source and how far it is
indented, and splits into its head word and the rest.

## Main definitions

* `Placard.Line`: a line of a source, trimmed.
* `Placard.Line.ofSource`: the lines of a source.
* `Placard.Line.argumentOf?`, `Placard.Line.isBare`: the two ways a keyword stands on a line, with
  an argument and alone.
-/

namespace Placard

open Text

/-- A line of a source. -/
structure Line where
  /-- How many lines stand before it. -/
  number : Nat
  /-- The offset of its first byte in the source. -/
  start : Nat
  /-- The offset just past its last byte, line ending excluded. -/
  stop : Nat
  /-- The number of white characters at its start. -/
  indent : Nat
  /-- Its text, trimmed. -/
  text : List Char
deriving DecidableEq, Repr

namespace Line

/-- A piece of the source between line feeds, without the one carriage return at its end. -/
def stripReturn (piece : List Char) : List Char :=
  if piece.getLast? = some '\r' then piece.dropLast else piece

/-- The line that a piece of the source makes, given its number and the offset of its first byte. -/
def ofPiece (number start : Nat) (piece : List Char) : Line :=
  let content := stripReturn piece
  { number
    start
    stop := start + utf8Length content
    indent := (content.takeWhile isWhite).length
    text := trim content }

/-- The lines that pieces of the source make, the first with the given number and offset. A line
feed, one byte, stands between two pieces. -/
def ofPieces (number start : Nat) : List (List Char) → List Line
  | [] => []
  | piece :: pieces =>
    ofPiece number start piece :: ofPieces (number + 1) (start + utf8Length piece + 1) pieces

/-- The lines of a source, at least one. -/
def ofSource (source : String) : List Line :=
  ofPieces 0 0 (source.toList.splitOn '\n')

/-- Whether the line holds white space only. -/
def isBlank (l : Line) : Bool := l.text.isEmpty

/-- The head word, which a blank line does not have. -/
def head? (l : Line) : Option Head := (Head.split l.text).map (·.1)

/-- What follows the head word, white space included. -/
def rest (l : Line) : List Char := ((Head.split l.text).map (·.2)).getD []

/-- The argument of the head word. -/
def argument? (l : Line) : Option (List Char) := argumentIn l.rest

/-- Whether the line is the given head and nothing else. -/
def isBareHead (l : Line) (h : Head) : Bool := l.head? == some h && l.rest.isEmpty

/-- Whether the line is the keyword and nothing else. -/
def isBare (l : Line) (k : Keyword) : Bool := l.isBareHead (.keyword k)

/-- The argument of the keyword, if the line is the keyword with an argument. -/
def argumentOf? (l : Line) (k : Keyword) : Option (List Char) :=
  if l.head? = some (.keyword k) then l.argument? else none

end Line

end Placard
