import Placard.Decimal.Basic
import Placard.Decimal.Binary

set_option relaxedAutoImplicit false
set_option autoImplicit false

/-!
# Numbers with one decimal place

The share of a slice is written with exactly one digit after the point. The exact binary value is
rounded to the nearest tenth, and a value halfway between two tenths goes to the even one.

## Main definitions

* `Placard.roundDiv`: a quotient rounded to the nearest whole number, ties to even.
* `Placard.tenthsText`: the text of a 64-bit number with one decimal place.
-/

namespace Placard

/-- The whole number nearest to `n / d`, of two equally near the even one. -/
def roundDiv (n d : Nat) : Nat :=
  let floor := n / d
  let twice := 2 * (n % d)
  if twice < d then floor
  else if d < twice then floor + 1
  else if floor % 2 = 0 then floor else floor + 1

/-- The text of a 64-bit number with one decimal place. A minus sign stays when the digits are all
zero. -/
def tenthsText (x : Float) : String :=
  match Binary.ofFloat x with
  | .nan => "NaN"
  | .infinite negative => if negative then "-inf" else "inf"
  | .finite b =>
    let tenths := roundDiv (10 * b.numerator) b.denominator
    let digits := Decimal.positional ⟨tenths, -1⟩
    String.ofList (if b.negative then '-' :: digits else digits)

end Placard
