import Placard.Text.Extending
import Placard.Text.Graphic
import Placard.Text.Ignorable

set_option relaxedAutoImplicit false
set_option autoImplicit false

/-!
# Printable characters

A character is printable if it has a shape of its own: it is graphic, not ignorable, and not a mark
on the character before it.

## Main definitions

* `Placard.Text.isPrintable`: whether a character is printable.
-/

namespace Placard.Text

/-- Whether a character is one of the two halfwidth sound marks of katakana. They extend the
character before them, but stand beside it as letters do. -/
def isSoundMark (c : Char) : Bool :=
  c == '\uff9e' || c == '\uff9f'

/-- Whether a character has a shape of its own. -/
def isPrintable (c : Char) : Bool :=
  isGraphic c && !isIgnorable c && (isSoundMark c || !isExtending c)

end Placard.Text
