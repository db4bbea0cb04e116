import Placard.Document.Numeral
import Placard.Text.Bytes

set_option relaxedAutoImplicit false
set_option autoImplicit false

/-!
# Scanning a numeral

The numeral at the start of a text is found by walking along the bytes of the text: the scanner
moves an index over the sign, the digits and the exponent, and cuts the text where it stops. What it
cuts off is then read by the general reader of 64-bit numbers, which accepts a whole text only and
also knows words that are no numerals here.

## Main definitions

* `Placard.Numeral.scan`: the numeral at the start of a text, cut off.
* `Placard.Numeral.readFloat?`: the number that a whole text writes.
* `Placard.Numeral.number`: the number at the start of a text.
-/

namespace Placard.Numeral

open Text

/-! ### Along the bytes -/

/-- The index of the first byte from `i` on that is no digit. -/
def digitsFrom (bytes : List UInt8) (i : Nat) : Nat :=
  if h : i < bytes.length then
    if isDigitByte bytes[i] then digitsFrom bytes (i + 1) else i
  else i
termination_by bytes.length - i

/-- The number of signs at an index, one or none. -/
def signAt (bytes : List UInt8) (i : Nat) : Nat :=
  if bytes[i]? = some (asciiByte '+') ∨ bytes[i]? = some (asciiByte '-') then 1 else 0

/-- The index behind the exponent that starts at `i`, or `i` if none does: a letter without digits
behind it is given back. -/
def exponentEnd (bytes : List UInt8) (i : Nat) : Nat :=
  if bytes[i]? = some (asciiByte 'e') ∨ bytes[i]? = some (asciiByte 'E') then
    let start := i + 1 + signAt bytes (i + 1)
    let stop := digitsFrom bytes start
    if start < stop then stop else i
  else i

/-- The index behind the digits and the point that start at `start`, and the number of digits. -/
def mantissaEnd (bytes : List UInt8) (start : Nat) : Nat × Nat :=
  let wholeEnd := digitsFrom bytes start
  if bytes[wholeEnd]? = some (asciiByte '.') then
    let fractionEnd := digitsFrom bytes (wholeEnd + 1)
    let count := (wholeEnd - start) + (fractionEnd - wholeEnd - 1)
    (if 0 < count then fractionEnd else wholeEnd, count)
  else (wholeEnd, wholeEnd - start)

/-- What a scan finds at the start of a text. -/
inductive Scan where
  /-- The word for an infinite value, behind an optional sign. -/
  | infinity (negative : Bool)
  /-- The part of the text that is a decimal numeral. -/
  | upTo (front : List Char)
  /-- No numeral. -/
  | nothing
deriving DecidableEq, Repr

/-- Scan for a numeral at the start of a text. -/
def scan (text : List Char) : Except BoundaryError Scan := do
  let bytes := encode text
  let start := signAt bytes 0
  let (_, unsigned) ← cut text start
  if infinityWord.isPrefixOf unsigned then
    return .infinity (bytes[0]? = some (asciiByte '-'))
  let (stop, count) := mantissaEnd bytes start
  if count = 0 then
    return .nothing
  let (front, _) ← cut text (exponentEnd bytes stop)
  return .upTo front

/-! ### The general reader

The grammar is `Sign? ('inf' | 'infinity' | 'nan' | Number)` in either case of the letters, where a
`Number` is `(Digit+ | Digit+ '.' Digit* | Digit* '.' Digit+) Exp?` and an `Exp` is
`'e' Sign? Digit+`. -/

/-- Whether a text is a word, in either case of its letters. -/
def isWord (word : String) (text : List Char) : Bool :=
  text.map Char.toLower == word.toList

/-- The exponent that a whole text writes, zero for the empty text. -/
def readExponent? : List Char → Option Int
  | [] => some 0
  | c :: cs =>
    if c = 'e' ∨ c = 'E' then
      let (negative, rest) := splitSign cs
      let (digits, after) := splitDigits rest
      if digits.isEmpty || !after.isEmpty then none
      else some (if negative then -(ofDigits digits : Int) else ofDigits digits)
    else none

/-- The number that a whole text of digits, a point and an exponent writes. -/
def readNumber? (text : List Char) : Option Float :=
  let (whole, afterWhole) := splitDigits text
  let (fraction, afterFraction) := splitFraction afterWhole
  if whole.isEmpty && fraction.isEmpty then none
  else (readExponent? afterFraction).map fun exponent =>
    let d := decimalOf whole fraction exponent
    Float.ofScientific d.digits (d.exponent < 0) d.exponent.natAbs

/-- The number that a whole text writes. -/
def readFloat? (text : List Char) : Option Float :=
  let (negative, unsigned) := splitSign text
  let size? :=
    if isWord "inf" unsigned || isWord "infinity" unsigned then some (1.0 / 0.0)
    else if isWord "nan" unsigned then some (0.0 / 0.0)
    else readNumber? unsigned
  size?.map fun size => if negative then -size else size

/-- The number at the start of a text: the infinite one with its sign, or what the reader makes of
the numeral that the scan has cut off. -/
def number (text : List Char) : Except BoundaryError (Option Float) := do
  match ← scan text with
  | .infinity negative => return some ((if negative then -1.0 else 1.0) * (1.0 / 0.0))
  | .upTo front => return readFloat? front
  | .nothing => return none

end Placard.Numeral
