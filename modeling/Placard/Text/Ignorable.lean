import Placard.Text.Ranges

set_option relaxedAutoImplicit false
set_option autoImplicit false

/-!
# Ignorable characters

A character is ignorable if it is not to be seen where it is not known, as a filler or a joiner: the
Unicode property `Default_Ignorable_Code_Point`.

## Main definitions

* `Placard.Text.isIgnorable`: whether a character is ignorable.
-/

namespace Placard.Text

/-- The ranges of the property `Default_Ignorable_Code_Point`, as of Unicode 17. -/
def ignorable : List (Nat × Nat) :=
  [(0xAD, 0xAD), (0x34F, 0x34F), (0x61C, 0x61C), (0x115F, 0x1160), (0x17B4, 0x17B5),
   (0x180B, 0x180F), (0x200B, 0x200F), (0x202A, 0x202E), (0x2060, 0x206F), (0x3164, 0x3164),
   (0xFE00, 0xFE0F), (0xFEFF, 0xFEFF), (0xFFA0, 0xFFA0), (0xFFF0, 0xFFF8), (0x1BCA0, 0x1BCA3),
   (0x1D173, 0x1D17A), (0xE0000, 0xE0FFF)]

/-- Whether a character is ignorable. -/
def isIgnorable (c : Char) : Bool :=
  inRanges ignorable c

end Placard.Text
