set_option relaxedAutoImplicit false
set_option autoImplicit false

/-!
# Ranges of characters

A property of characters is written down as the ranges of the code points that have it, in order.

## Main definitions

* `Placard.Text.inRanges`: whether a character lies in one of some ranges.
-/

namespace Placard.Text

/-- Whether a character lies in one of the ranges, both ends included. -/
def inRanges (ranges : List (Nat × Nat)) (c : Char) : Bool :=
  ranges.any fun range => range.1 ≤ c.toNat && c.toNat ≤ range.2

/-- A character lies in one of the ranges exactly if its code point stands between the two ends of
one. -/
theorem inRanges_iff (ranges : List (Nat × Nat)) (c : Char) :
    inRanges ranges c = true ↔ ∃ range ∈ ranges, range.1 ≤ c.toNat ∧ c.toNat ≤ range.2 := by
  simp [inRanges]

end Placard.Text
