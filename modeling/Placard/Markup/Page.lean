import Placard.Markup.BaseStyles
import Placard.Markup.Tag

set_option relaxedAutoImplicit false
set_option autoImplicit false

/-!
# Pages

Rows of tags are put together into markup: on one line or each on a line of its own, as a fragment
or inside a document of its own.

## Main definitions

* `Placard.PageOptions`: how markup is put together.
* `Placard.Figure.page`, `Placard.Figure.pageOfAll`: the markup of a figure, or of several.
-/

namespace Placard

/-- How markup is put together. -/
structure PageOptions where
  /-- Whether it is a document of its own, with the base styles. -/
  standalone : Bool := true
  /-- Whether each row has a line of its own and is indented. -/
  pretty : Bool := true
  /-- What class names and custom properties start with. -/
  classPrefix : String := "ig-"
deriving DecidableEq, Repr

namespace Markup

/-- The indentation of a row at a depth. -/
def indentation (pretty : Bool) (depth : Nat) : String :=
  if pretty then String.ofList (List.replicate (2 * depth) ' ') else ""

/-- A row with its indentation. -/
def Row.write (pretty : Bool) (r : Row) : String := indentation pretty r.depth ++ r.tag.write

/-- What stands between two rows. -/
def lineEnd (pretty : Bool) : String := if pretty then "\n" else ""

/-- Rows one after another. -/
def writeRows (pretty : Bool) (rows : List Row) : String :=
  (lineEnd pretty).intercalate (rows.map (Row.write pretty))

/-- A document of its own around the markup of its body. -/
def standalonePage (pretty : Bool) (classPrefix body : String) : String :=
  let nl := lineEnd pretty
  String.join
    ["<!DOCTYPE html>", nl, "<html><head><meta charset=\"utf-8\"><style>", nl,
      baseStyles classPrefix, nl, "</style></head><body>", nl, body, nl, "</body></html>", nl]

end Markup

namespace Figure

open Markup

/-- The markup of figures one after another. -/
def pageOfAll (figures : List Figure) (options : PageOptions) : String :=
  let depth := if options.standalone then 1 else 0
  let body := writeRows options.pretty (tagRowsAll options.classPrefix depth figures)
  if options.standalone then standalonePage options.pretty options.classPrefix body else body

/-- The markup of a figure. -/
def page (f : Figure) (options : PageOptions) : String := pageOfAll [f] options

end Figure

end Placard
