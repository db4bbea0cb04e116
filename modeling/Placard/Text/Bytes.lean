set_option relaxedAutoImplicit false
set_option autoImplicit false

/-!
# Bytes of a text

A text is stored as its UTF-8 bytes, and a reader that walks along the bytes names places in it by
byte index. A text can be cut where one of its characters starts, and at its end, but not in the
middle of a character.

## Main definitions

* `Placard.Text.encode`: the bytes of a text.
* `Placard.Text.cut`: the two parts of a text at a byte index.
-/

namespace Placard.Text

/-- The bytes of a text in UTF-8. -/
def encode (text : List Char) : List UInt8 :=
  text.flatMap String.utf8EncodeChar

/-- The byte that stands for a character below U+0080. -/
def asciiByte (c : Char) : UInt8 := c.val.toUInt8

/-- The byte of an ASCII digit. -/
def isDigitByte (b : UInt8) : Bool := asciiByte '0' ≤ b && b ≤ asciiByte '9'

/-- An attempt to cut a text at a byte index where none of its characters starts or ends. -/
structure BoundaryError where
  /-- The index. -/
  index : Nat
deriving DecidableEq, Repr

/-- The first `n` bytes of a text and the bytes after them, as texts. There are none if the cut goes
through a character or lies behind the end. -/
def cut? : List Char → Nat → Option (List Char × List Char)
  | text, 0 => some ([], text)
  | [], _ + 1 => none
  | c :: cs, n + 1 =>
    if c.utf8Size ≤ n + 1 then
      (cut? cs (n + 1 - c.utf8Size)).map fun (front, back) => (c :: front, back)
    else none

/-- The two parts of a text at a byte index, an error off the boundaries of its characters. -/
def cut (text : List Char) (n : Nat) : Except BoundaryError (List Char × List Char) :=
  match cut? text n with
  | some parts => .ok parts
  | none => .error { index := n }

end Placard.Text
