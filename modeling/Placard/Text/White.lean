set_option relaxedAutoImplicit false
set_option autoImplicit false

/-!
# White space

The white-space characters that separate words, indent lines and are trimmed from texts: the
twenty-five code points of the Unicode property `White_Space`.

## Main definitions

* `Placard.Text.isWhite`: the property, and `Placard.Text.isAsciiWhite`, its part below U+0080.
* `Placard.Text.trim`: a text without white space at its two ends.
-/

namespace Placard.Text

/-- The white space below U+0080: TAB, LF, VT, FF, CR and the space. -/
def isAsciiWhite (c : Char) : Bool :=
  c == ' ' || (9 ≤ c.toNat && c.toNat ≤ 13)

/-- The white space from U+0080 on, as code points in order. -/
def wideWhite : List Nat :=
  [0x85, 0xA0, 0x1680,
    0x2000, 0x2001, 0x2002, 0x2003, 0x2004, 0x2005, 0x2006, 0x2007, 0x2008, 0x2009, 0x200A,
    0x2028, 0x2029, 0x202F, 0x205F, 0x3000]

/-- The Unicode property `White_Space`. -/
def isWhite (c : Char) : Bool :=
  isAsciiWhite c || wideWhite.contains c.toNat

/-- The text from its first character that is not white on. -/
def trimStart (cs : List Char) : List Char :=
  cs.dropWhile isWhite

/-- The text up to its last character that is not white. -/
def trimEnd (cs : List Char) : List Char :=
  cs.foldr (fun c kept => if kept.isEmpty && isWhite c then [] else c :: kept) []

/-- The text without white space at its two ends. -/
def trim (cs : List Char) : List Char :=
  trimEnd (trimStart cs)

/-- The number of bytes a text takes in UTF-8. -/
def utf8Length (cs : List Char) : Nat :=
  cs.foldr (fun c n => c.utf8Size + n) 0

end Placard.Text
