import Placard.Decimal.Basic

set_option relaxedAutoImplicit false
set_option autoImplicit false

/-!
# Numerals at the start of a text

A value is a number when its text starts with a numeral: `45%` and `12 apples` are numbers. A
numeral is an optional sign, then digits with an optional point among or around them, then an
optional exponent; or an optional sign and the word `Infinity`.

## Main definitions

* `Placard.Numeral`: a numeral, taken apart.
* `Placard.Numeral.read?`: the longest numeral that a text starts with.
* `Placard.Numeral.toFloat`: the 64-bit number nearest to it.
-/

namespace Placard

/-- What a numeral says after its sign. -/
inductive Numeral.Magnitude where
  /-- The word `Infinity`. -/
  | infinity
  /-- Digits before and after the point, and a power of ten that scales them. -/
  | decimal (whole fraction : List Char) (exponent : Int)
deriving DecidableEq, Repr

/-- A numeral, taken apart. -/
structure Numeral where
  /-- Whether a minus sign stands in front. -/
  negative : Bool
  /-- What follows the sign. -/
  magnitude : Numeral.Magnitude
deriving DecidableEq, Repr

namespace Numeral

/-- An optional sign at the start of a text, whether it is a minus, and what follows. -/
def splitSign : List Char → Bool × List Char
  | '+' :: cs => (false, cs)
  | '-' :: cs => (true, cs)
  | cs => (false, cs)

/-- The digits at the start of a text, and what follows. -/
def splitDigits (cs : List Char) : List Char × List Char :=
  (cs.takeWhile Char.isDigit, cs.dropWhile Char.isDigit)

/-- The number that digits write. -/
def ofDigits (digits : List Char) : Nat :=
  digits.foldl (fun n c => 10 * n + (c.toNat - '0'.toNat)) 0

/-- The digits after a point at the start of a text, and what follows. A text that does not start
with a point has none. -/
def splitFraction : List Char → List Char × List Char
  | '.' :: cs => splitDigits cs
  | cs => ([], cs)

/-- The exponent at the start of a text, zero if there is none. The letter is no exponent unless a
digit follows it, or a sign and a digit. -/
def exponentOf : List Char → Int
  | c :: cs =>
    if c = 'e' ∨ c = 'E' then
      let (negative, rest) := splitSign cs
      let n : Int := ofDigits (splitDigits rest).1
      if negative then -n else n
    else 0
  | [] => 0

/-- The word for an infinite value. -/
def infinityWord : List Char := "Infinity".toList

/-- The longest numeral that the text starts with. -/
def read? (text : List Char) : Option Numeral :=
  let (negative, unsigned) := splitSign text
  if infinityWord.isPrefixOf unsigned then some { negative, magnitude := .infinity }
  else
    let (whole, afterWhole) := splitDigits unsigned
    let (fraction, afterFraction) := splitFraction afterWhole
    if whole.isEmpty && fraction.isEmpty then none
    else some { negative, magnitude := .decimal whole fraction (exponentOf afterFraction) }

/-- The decimal number that digits around a point stand for. -/
def decimalOf (whole fraction : List Char) (exponent : Int) : Decimal :=
  { digits := ofDigits (whole ++ fraction), exponent := exponent - fraction.length }

/-- The 64-bit number nearest to the numeral. -/
def toFloat (n : Numeral) : Float :=
  let size : Float :=
    match n.magnitude with
    | .infinity => 1.0 / 0.0
    | .decimal whole fraction exponent => (decimalOf whole fraction exponent).toFloat
  if n.negative then -size else size

end Numeral

end Placard
