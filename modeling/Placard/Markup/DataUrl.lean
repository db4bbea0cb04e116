set_option relaxedAutoImplicit false
set_option autoImplicit false

/-!
# Data URLs

Markup is carried inside a URL in base 64: three bytes as four letters, the last group padded.

## Main definitions

* `Placard.Base64.encode`: bytes in base 64.
* `Placard.dataUrl`: a text as a URL.
-/

namespace Placard

namespace Base64

/-- The sixty-four letters in order of their values. -/
def alphabet : List Char :=
  "ABCDEFGHIJKLMNOPQRSTUVWXYZabcdefghijklmnopqrstuvwxyz0123456789+/".toList

/-- The letter with the value of the lowest six bits of `n`. -/
def letter (n : Nat) : Char := (alphabet[n % 64]?).getD 'A'

/-- What fills up the last group of letters. -/
def padding : Char := '='

/-- Bytes in base 64: a group of letters for each three bytes. -/
def encode : List UInt8 → List Char
  | [] => []
  | [a] =>
    let n := a.toNat * 16
    [letter (n / 64), letter n, padding, padding]
  | [a, b] =>
    let n := (a.toNat * 256 + b.toNat) * 4
    [letter (n / 4096), letter (n / 64), letter n, padding]
  | a :: b :: c :: rest =>
    let n := (a.toNat * 256 + b.toNat) * 256 + c.toNat
    letter (n / 262144) :: letter (n / 4096) :: letter (n / 64) :: letter n :: encode rest

end Base64

/-- The URL that carries a text with a media type, encoded in UTF-8. -/
def dataUrl (text mediaType : String) : String :=
  "data:" ++ mediaType ++ ";base64," ++ String.ofList (Base64.encode text.toUTF8.toList)

end Placard
