import Placard.Text.Wide
import Placard.Text.ZeroWidth

set_option relaxedAutoImplicit false
set_option autoImplicit false

/-!
# Columns

How many columns of a terminal a character takes. Most take one, an ideograph two, and an accent
none, as it stands on the character before it.

## Main definitions

* `Placard.Text.columns`: the number of columns of a character.
-/

namespace Placard.Text

/-- The signs that stand for several letters, each with its columns: two of Khmer. -/
def composed : List (Char × Nat) :=
  [('\u17a4', 2), ('\u17d8', 3)]

/-- The number of columns of a character. A control character counts as one. -/
def columns (c : Char) : Nat :=
  match composed.lookup c with
  | some n => n
  | none => if isZeroWidth c then 0 else if isWide c then 2 else 1

end Placard.Text
