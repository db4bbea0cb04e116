import Placard.Document.Parse
import Placard.Report.Excerpt

set_option relaxedAutoImplicit false
set_option autoImplicit false

/-!
# The report of a header error

On a terminal a header error is shown with an excerpt of the source that it is about.

The report counts characters, and takes the offsets of the error for counts of characters. Where
they do not fit into the source, only the message is shown.

## Main definitions

* `Placard.HeaderError.report`: the report of an error.
-/

namespace Placard

/-- What an excerpt says about a bad header. -/
def HeaderError.remark : String := "expected `infographic <template-name>` here"

/-- The report of the error in a source, each line of it ended. -/
def HeaderError.report (e : HeaderError) (source filename : String) : String :=
  let first := Report.paint .red "Error:" ++ " " ++ HeaderError.message
  let chars := source.toList
  let shown :=
    if Report.fits chars.length e.start e.stop then
      Report.excerpt chars filename e.start e.stop HeaderError.remark
    else []
  String.join ((first :: shown).map (· ++ "\n"))

end Placard
