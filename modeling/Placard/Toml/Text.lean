import Placard.Toml.Blank

set_option relaxedAutoImplicit false
set_option autoImplicit false

/-!
# TOML texts

A text stands between quotes: double ones, where a backslash starts an escape, or single ones, where
every character stands for itself. Three quotes on either side make a text of several lines.

## Main definitions

* `Placard.Toml.text`: a text of any of the four kinds.
* `Placard.Toml.lineText`: a text on one line, as it may also be a key.
-/

namespace Placard.Toml

open Reader

/-- The value of a hexadecimal digit. -/
def hexValue (c : Char) : Nat :=
  if c.isDigit then c.toNat - '0'.toNat
  else if 'a' ≤ c ∧ c ≤ 'f' then c.toNat - 'a'.toNat + 10
  else c.toNat - 'A'.toNat + 10

/-- Whether a character is a hexadecimal digit. -/
def isHexDigit (c : Char) : Bool :=
  c.isDigit || ('a' ≤ c && c ≤ 'f') || ('A' ≤ c && c ≤ 'F')

/-- The number that digits write in a base. -/
def ofDigits (base : Nat) (digits : List Char) : Nat :=
  digits.foldl (fun n c => base * n + hexValue c) 0

/-- The character whose number is given in `count` hexadecimal digits. -/
def numberedChar (count : Nat) : Reader Char := do
  let n := ofDigits 16 (← exactly (one isHexDigit) count)
  if n.isValidChar then pure (Char.ofNat n) else failure

/-- The character that the letter after a backslash stands for, or the number after the letter. -/
def escaped : Reader Char := do
  match ← one fun _ => true with
  | 'b' => pure '\x08'
  | 't' => pure '\t'
  | 'n' => pure '\n'
  | 'f' => pure '\x0c'
  | 'r' => pure '\r'
  | '"' => pure '"'
  | '\\' => pure '\\'
  | 'u' => numberedChar 4
  | 'U' => numberedChar 8
  | _ => failure

/-- An escape. -/
def escape : Reader Char := do
  char '\\'
  escaped

/-- A character that stands for itself between double quotes. -/
def isBasic (c : Char) : Bool := isPlain c && c != '"' && c != '\\'

/-- A character that stands for itself between single quotes. -/
def isLiteral (c : Char) : Bool := isPlain c && c != '\''

/-- A text on one line between double quotes. -/
def basicText : Reader (List Char) := do
  char '"'
  let taken ← many (one isBasic <|> escape)
  char '"'
  pure taken

/-- A text on one line between single quotes. -/
def literalText : Reader (List Char) := do
  char '\''
  let taken ← span isLiteral
  char '\''
  pure taken

/-- A text on one line. -/
def lineText : Reader (List Char) := basicText <|> literalText

/-- One or two quotes inside a text of several lines. -/
def fewQuotes (quote : Char) : Reader (List Char) := do
  let quotes ← span1 (· == quote)
  if quotes.length < 3 then pure quotes else failure

/-- The end of a text of several lines: three quotes, behind up to two that belong to the text. -/
def lastQuotes (quote : Char) : Reader (List Char) := do
  let quotes ← span (· == quote)
  if 3 ≤ quotes.length ∧ quotes.length ≤ 5 then pure (quotes.drop 3) else failure

/-- A line ending, which is a line feed in the text however it is written. -/
def textNewline : Reader (List Char) := do
  newline
  pure ['\n']

/-- A backslash at the end of a line, which joins the line with the next text. -/
def lineJoin : Reader (List Char) := do
  char '\\'
  blanks
  newline
  let _ ← many (newline <|> discard (span1 isBlank))
  pure []

/-- A text of several lines, made of the given parts. A line ending at its start is left out. -/
def longText (quote : Char) (part : Reader (List Char)) : Reader (List Char) := do
  chars [quote, quote, quote]
  let _ ← optional newline
  let parts ← many (part <|> textNewline <|> fewQuotes quote)
  let last ← lastQuotes quote
  pure (parts.flatten ++ last)

/-- A text of several lines between double quotes. -/
def longBasicText : Reader (List Char) :=
  longText '"' (span1 isBasic <|> lineJoin <|> do pure [← escape])

/-- A text of several lines between single quotes. -/
def longLiteralText : Reader (List Char) := longText '\'' (span1 isLiteral)

/-- A text of any kind. Three quotes always start a text of several lines. -/
def text : Reader (List Char) := do
  match ← ahead with
  | '"' :: '"' :: '"' :: _ => longBasicText
  | '\'' :: '\'' :: '\'' :: _ => longLiteralText
  | _ => lineText

end Placard.Toml
