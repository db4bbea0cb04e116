import Placard.Toml.Reader

set_option relaxedAutoImplicit false
set_option autoImplicit false

/-!
# Between the parts of a TOML document

Blanks, comments and line endings. A line ends with a line feed, perhaps behind a carriage return; a
comment runs to the end of its line and holds no control character other than the tab.

## Main definitions

* `Placard.Toml.blanks`, `Placard.Toml.newline`, `Placard.Toml.comment`: what separates parts.
* `Placard.Toml.gap`: all of these, as between the values of an array.
* `Placard.Toml.lineEnd`: the rest of a line after a statement.
-/

namespace Placard.Toml

open Reader

/-- A space or a tab. -/
def isBlank (c : Char) : Bool := c == ' ' || c == '\t'

/-- A character that may stand in a comment or a text on one line: all but control characters, the
tab excepted. -/
def isPlain (c : Char) : Bool := c == '\t' || (c.toNat ≥ 0x20 && c.toNat != 0x7F)

/-- Takes spaces and tabs. -/
def blanks : Reader Unit := do
  let _ ← span isBlank
  pure ()

/-- Takes a line ending. -/
def newline : Reader Unit := char '\n' <|> chars ['\r', '\n']

/-- Takes a comment, up to the end of its line. -/
def comment : Reader Unit := do
  char '#'
  let _ ← span isPlain
  pure ()

/-- Nothing is left. -/
def endOfText : Reader Unit := do
  if (← ahead).isEmpty then pure () else failure

/-- Takes blanks and a comment, and the end of the line or of the text. -/
def lineEnd : Reader Unit := do
  blanks
  let _ ← optional comment
  newline <|> endOfText

/-- Takes blanks, comments and line endings. A comment must end with its line. -/
def gap : Reader Unit := do
  let _ ← many (blank <|> line)
  pure ()
where
  /-- One space or tab. -/
  blank : Reader Unit := do
    let _ ← one isBlank
    pure ()
  /-- A line ending, perhaps behind a comment. -/
  line : Reader Unit := do
    let _ ← optional comment
    newline

end Placard.Toml
