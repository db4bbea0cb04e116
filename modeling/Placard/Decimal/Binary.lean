set_option relaxedAutoImplicit false
set_option autoImplicit false

/-!
# The exact value of a 64-bit number

A finite 64-bit number is a whole number times a power of two. Its bits tell which.

## Main definitions

* `Placard.Binary`: the number `mantissa · 2 ^ exponent`, with a sign.
* `Placard.Binary.Reading`, `Placard.Binary.ofFloat`: what a 64-bit number stands for.
-/

namespace Placard

/-- A power of two. -/
def twoTo (n : Nat) : Nat := Nat.pow 2 n

/-- The number `mantissa · 2 ^ exponent`, below zero if `negative`. A zero has a sign too. -/
structure Binary where
  /-- Whether the sign is a minus. -/
  negative : Bool
  /-- The whole number that is scaled. -/
  mantissa : Nat
  /-- The power of two it is scaled by. -/
  exponent : Int
deriving DecidableEq, Repr

namespace Binary

/-- What a 64-bit number stands for. -/
inductive Reading where
  /-- Not a number. -/
  | nan
  /-- An infinity. -/
  | infinite (negative : Bool)
  /-- A number. -/
  | finite (value : Binary)
deriving DecidableEq, Repr

/-- The mantissa of the smallest number with a full mantissa, whose 53 bits start with a one. -/
def leastNormal : Nat := twoTo 52

/-- The exponent of the numbers too small for a full mantissa. -/
def leastExponent : Int := -1074

/-- Reads the sign, the biased exponent and the fraction off the bits of a number. -/
def ofFloat (x : Float) : Reading :=
  let bits := x.toBits.toNat
  let negative := decide (twoTo 63 ≤ bits)
  let biased := bits / leastNormal % 2048
  let fraction := bits % leastNormal
  if biased = 2047 then
    if fraction = 0 then .infinite negative else .nan
  else if biased = 0 then
    .finite { negative, mantissa := fraction, exponent := leastExponent }
  else
    .finite { negative, mantissa := leastNormal + fraction, exponent := leastExponent + biased - 1 }

/-- The numerator of the absolute value, over `denominator`. -/
def numerator (b : Binary) : Nat := b.mantissa * twoTo b.exponent.toNat

/-- The denominator of the absolute value, a power of two. -/
def denominator (b : Binary) : Nat := twoTo (-b.exponent).toNat

end Binary

end Placard
