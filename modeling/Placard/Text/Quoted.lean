import Placard.Text.Printable

set_option relaxedAutoImplicit false
set_option autoImplicit false

/-!
# Quoted texts

A text shown inside a message stands between double quotes. Characters that would be misread or not
be seen are written as escapes.

## Main definitions

* `Placard.Text.quote`: a text between quotes.
-/

namespace Placard.Text

/-- The number of a character in hexadecimal digits between braces. -/
def numbered (c : Char) : List Char :=
  "\\u\x7b".toList ++ Nat.toDigits 16 c.toNat ++ "\x7d".toList

/-- A character as it stands in a quoted text. -/
def quoteChar (c : Char) : List Char :=
  match c with
  | '\x00' => ['\\', '0']
  | '\t' => ['\\', 't']
  | '\n' => ['\\', 'n']
  | '\r' => ['\\', 'r']
  | '"' => ['\\', '"']
  | '\\' => ['\\', '\\']
  | _ => if isPrintable c then [c] else numbered c

/-- A text between quotes. -/
def quote (s : String) : String :=
  String.ofList ('"' :: s.toList.flatMap quoteChar ++ ['"'])

end Placard.Text
