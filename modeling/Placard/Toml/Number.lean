import Placard.Decimal.Basic
import Placard.Toml.Text
import Placard.Toml.Value

set_option relaxedAutoImplicit false
set_option autoImplicit false

/-!
# TOML numbers

Whole numbers of 64 bits, in base ten with an optional sign or in base sixteen, eight or two behind
a zero and a letter; and numbers with a fraction, an exponent or both. An underscore may stand
between two digits.

## Main definitions

* `Placard.Toml.integer`, `Placard.Toml.float`: the two kinds of numbers.
-/

namespace Placard.Toml

open Reader

/-- Digits, at least one, with single underscores between them; the underscores are left out. -/
def digitGroups (isDigit : Char → Bool) : Reader (List Char) := do
  let first ← one isDigit
  let others ← many (one isDigit <|> do
    char '_'
    one isDigit)
  pure (first :: others)

/-- An optional sign, and whether it is a minus. -/
def sign : Reader Bool := do
  let mark ← optional (one fun c => c == '+' || c == '-')
  pure (mark == some '-')

/-- Digits in base ten without a zero in front, or zero alone. -/
def wholeDigits : Reader (List Char) :=
  (do
    char '0'
    pure ['0'])
  <|> digitGroups Char.isDigit

/-- A digit in a base of at most sixteen. -/
def isDigitIn (base : Nat) (c : Char) : Bool := isHexDigit c && decide (hexValue c < base)

/-- A number in another base: a zero, the letter of the base, and digits. -/
def basedInteger (letter : Char) (base : Nat) : Reader Int := do
  chars ['0', letter]
  let digits ← digitGroups (isDigitIn base)
  pure (ofDigits base digits)

/-- A number in base ten. -/
def decimalInteger : Reader Int := do
  let negative ← sign
  let n : Int := ofDigits 10 (← wholeDigits)
  pure (if negative then -n else n)

/-- The greatest whole number of 64 bits. The least one is one further away from zero. -/
def greatestInteger : Int := 0x7FFFFFFFFFFFFFFF

/-- A whole number of 64 bits. -/
def integer : Reader Value := do
  let n ← basedInteger 'x' 16 <|> basedInteger 'o' 8 <|> basedInteger 'b' 2 <|> decimalInteger
  if -greatestInteger - 1 ≤ n ∧ n ≤ greatestInteger then pure (.integer n) else failure

/-- A point and the digits behind it. -/
def fraction : Reader (List Char) := do
  char '.'
  digitGroups Char.isDigit

/-- The letter `e` and a power of ten. -/
def exponent : Reader Int := do
  let _ ← one fun c => c == 'e' || c == 'E'
  let negative ← sign
  let n : Int := ofDigits 10 (← digitGroups Char.isDigit)
  pure (if negative then -n else n)

/-- Digits behind a point, an exponent, or both. -/
def scaling : Reader (List Char × Int) :=
  (do
    let digits ← fraction
    let power ← optional exponent
    pure (digits, power.getD 0))
  <|> do
    let power ← exponent
    pure ([], power)

/-- A number with a fraction or an exponent. One too large above zero is refused; one too large
below zero is the negative infinity. -/
def finiteFloat : Reader Float := do
  let negative ← sign
  let whole ← wholeDigits
  let (digits, power) ← scaling
  let size := Decimal.toFloat
    { digits := ofDigits 10 (whole ++ digits), exponent := power - digits.length }
  if negative then pure (-size) else if size.isInf then failure else pure size

/-- The words for the values that are not finite. -/
def specialFloat : Reader Float := do
  let negative ← sign
  let size ←
    (do
      chars ['i', 'n', 'f']
      pure (1.0 / 0.0))
    <|> do
      chars ['n', 'a', 'n']
      pure (0.0 / 0.0)
  pure (if negative then -size else size)

/-- A number with a fraction or an exponent, or a word for one. -/
def float : Reader Value := do
  let x ← finiteFloat <|> specialFloat
  pure (.float x)

end Placard.Toml
