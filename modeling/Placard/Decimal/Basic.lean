set_option relaxedAutoImplicit false
set_option autoImplicit false

/-!
# Decimal numbers

A decimal `digits · 10 ^ exponent`, how it is written without an exponent, and the 64-bit number
nearest to it.

## Main definitions

* `Placard.Decimal`: a decimal number.
* `Placard.Decimal.positional`: its digits with the point in place.
* `Placard.Decimal.toFloat`: the nearest 64-bit number.
-/

namespace Placard

/-- The decimal number `digits · 10 ^ exponent`. -/
structure Decimal where
  /-- The digits, read as one number. -/
  digits : Nat
  /-- The power of ten that the last digit counts. -/
  exponent : Int
deriving DecidableEq, Repr

/-- A power of ten. -/
def tenTo (n : Nat) : Nat := Nat.pow 10 n

/-- The number of decimal digits of `n`, one for zero. -/
def digitCount (n : Nat) : Nat := (Nat.toDigits 10 n).length

namespace Decimal

/-- The text of the number without an exponent: whole part, and a point and further digits if the
exponent is negative. The digits are written as they are. -/
def positional (d : Decimal) : List Char :=
  let digits := Nat.toDigits 10 d.digits
  if 0 ≤ d.exponent then
    digits ++ List.replicate d.exponent.toNat '0'
  else
    let places := (-d.exponent).toNat
    if places < digits.length then
      digits.take (digits.length - places) ++ '.' :: digits.drop (digits.length - places)
    else
      '0' :: '.' :: List.replicate (places - digits.length) '0' ++ digits

/-- The same number with no zero at the end of its digits; zero keeps its one digit. -/
def normalize (d : Decimal) : Decimal :=
  if d.digits = 0 then { digits := 0, exponent := 0 }
  else
    let zeros := ((Nat.toDigits 10 d.digits).reverse.takeWhile (· == '0')).length
    { digits := d.digits / tenTo zeros, exponent := d.exponent + zeros }

/-- The 64-bit number nearest to the decimal, a tie going to the even one. A decimal with its first
digit far above the largest 64-bit number is infinite, one far below the smallest is zero. -/
def toFloat (d : Decimal) : Float :=
  if d.digits = 0 then 0.0
  else
    let magnitude := (digitCount d.digits : Int) + d.exponent
    if 310 < magnitude then 1.0 / 0.0
    else if magnitude < -330 then 0.0
    else Float.ofScientific d.digits (d.exponent < 0) d.exponent.natAbs

end Decimal

end Placard
