import Placard.Decimal.Basic
import Placard.Decimal.Binary

set_option relaxedAutoImplicit false
set_option autoImplicit false

/-!
# The shortest decimal that reads back

A 64-bit number is written with the fewest digits from which it can be read back, and of the
decimals with that many digits the nearest one.

The decimals that read back as a number form an interval around it, whose ends lie halfway to its
two neighbours and belong to it if the mantissa is even. If a decimal grid has a point in the
interval, then one of the two grid points around the number itself lies in it.

## Main definitions

* `Placard.Binary.shortest`: the digits of a positive number.
* `Placard.floatText`: the text of any 64-bit number.
-/

namespace Placard

namespace Binary

/-- The power of ten of the first digit of a positive number. -/
def decimalExponent (b : Binary) : Int :=
  let n := b.numerator
  let d := b.denominator
  if d ≤ n then digitCount (n / d) - 1 else -digitCount ((d - 1) / n)

/-- The distance from the number down to the halfway point below it, in quarters of its unit. Just
above a power of two the numbers below lie twice as close. -/
def quartersBelow (b : Binary) : Nat :=
  if b.mantissa = leastNormal ∧ leastExponent < b.exponent then 1 else 2

/-- Whether the decimal reads back as the positive number `b`. -/
def readsBack (b : Binary) (d : Decimal) : Bool :=
  -- both sides are scaled to whole numbers: a decimal by `tens`, quarters of the unit by `twos`
  let quarter := b.exponent - 2
  let tens := tenTo d.exponent.toNat * twoTo (-quarter).toNat
  let twos := twoTo quarter.toNat * tenTo (-d.exponent).toNat
  let low := (4 * b.mantissa - b.quartersBelow) * twos
  let high := (4 * b.mantissa + 2) * twos
  let point := d.digits * tens
  if b.mantissa % 2 = 0 then decide (low ≤ point ∧ point ≤ high)
  else decide (low < point ∧ point < high)

/-- The two decimals with the given exponent around the positive number `b`, and whether the upper
one is as near as the lower one or nearer. -/
def around (b : Binary) (exponent : Int) : Decimal × Decimal × Bool :=
  let tens := tenTo exponent.toNat * b.denominator
  let value := b.numerator * tenTo (-exponent).toNat
  let floor := value / tens
  (⟨floor, exponent⟩, ⟨floor + 1, exponent⟩, decide (tens ≤ 2 * (value % tens)))

/-- The decimal with the given exponent that reads back as `b` and is nearest to it, the upper one
on a tie. -/
def nearest? (b : Binary) (exponent : Int) : Option Decimal :=
  let (lower, upper, upperNearer) := b.around exponent
  match b.readsBack lower, b.readsBack upper with
  | true, true => some (if upperNearer then upper else lower)
  | true, false => some lower
  | false, true => some upper
  | false, false => none

/-- The shortest decimal that reads back as the positive number `b`. Seventeen digits always do. -/
def shortest (b : Binary) : Decimal :=
  let first := b.decimalExponent
  let found := (List.range 17).findSome? fun (n : Nat) => b.nearest? (first - n)
  (found.getD (b.around (first - 16)).1).normalize

end Binary

/-- The text of a 64-bit number: the shortest digits that read back, written without an exponent.
Zero keeps its sign, a number that is not one is written `NaN`. -/
def floatText (x : Float) : String :=
  match Binary.ofFloat x with
  | .nan => "NaN"
  | .infinite negative => if negative then "-inf" else "inf"
  | .finite b =>
    let digits := if b.mantissa = 0 then ['0'] else b.shortest.positional
    String.ofList (if b.negative then '-' :: digits else digits)

end Placard
