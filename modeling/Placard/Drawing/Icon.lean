import Placard.Figure.Basic
import Placard.Text.Infix

set_option relaxedAutoImplicit false
set_option autoImplicit false

/-!
# Icons

An icon is referred to by a collection and a name with a colon between them.

## Main definitions

* `Placard.Icon.split?`: the two parts of a reference.
* `Placard.Icon.figure`: the figure for a reference.
-/

namespace Placard.Icon

/-- The collection and the name in a reference, divided at its first colon. Neither is empty. -/
def split? (reference : String) : Option (String × String) :=
  match Text.splitAtFirst? ':' reference.toList with
  | some (collection, name) =>
    if collection.isEmpty || name.isEmpty then none
    else some (String.ofList collection, String.ofList name)
  | none => none

/-- The sign shown for a reference that does not split. -/
def fallbackSign : String := "●"

/-- The figure for a reference: a place for the icon, or the fallback sign. -/
def figure (reference : String) : Figure :=
  match split? reference with
  | some _ => { shape := .icon reference }
  | none => Figure.sign "icon-fallback" fallbackSign

end Placard.Icon
