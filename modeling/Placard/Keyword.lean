import Placard.Text.White

set_option relaxedAutoImplicit false
set_option autoImplicit false

/-!
# Head words

A line of a document starts with a head word: its longest run of characters that are not white.
Eleven head words have a meaning, and what follows one of them is its argument.

## Main definitions

* `Placard.Keyword`: the words with a meaning; `Placard.Head`: a keyword, or any other word.
* `Placard.Head.split`: the head of a text and what follows it.
* `Placard.argumentIn`: the argument in what follows a head.
-/

namespace Placard

open Text

/-- The words that have a meaning at the start of a line. -/
inductive Keyword where
  /-- Opens the document and names its template. -/
  | infographic
  /-- Opens a data block. -/
  | data
  /-- Names a color scheme. -/
  | theme
  /-- Gives the heading above the drawing. -/
  | title
  /-- Opens the list of items of a data block. -/
  | items
  /-- Opens the list of items below an item. -/
  | children
  /-- Replaces the label of an item. -/
  | label
  /-- Gives the value of an item. -/
  | value
  /-- Gives the description of an item. -/
  | desc
  /-- Gives the icon of an item. -/
  | icon
  /-- Marks an item of a list. -/
  | dash
deriving DecidableEq, Repr

/-- How the keyword is written. -/
def Keyword.spelling : Keyword → String
  | .infographic => "infographic"
  | .data => "data"
  | .theme => "theme"
  | .title => "title"
  | .items => "items"
  | .children => "children"
  | .label => "label"
  | .value => "value"
  | .desc => "desc"
  | .icon => "icon"
  | .dash => "-"

/-- All keywords. -/
def Keyword.all : List Keyword :=
  [.infographic, .data, .theme, .title, .items, .children, .label, .value, .desc, .icon, .dash]

/-- The keyword spelled by a word, if the word is one. -/
def Keyword.ofChars? (word : List Char) : Option Keyword :=
  Keyword.all.find? fun k => k.spelling.toList == word

/-- The first word of a line: a keyword, or a word without a meaning. -/
inductive Head where
  /-- A word with a meaning. -/
  | keyword (k : Keyword)
  /-- Any other word. -/
  | word
deriving DecidableEq, Repr

/-- Whether a keyword is recognised in front of `rest`. A keyword made of letters is not one when
white space beyond ASCII follows it; the dash is one before any white space. -/
def Keyword.endsBefore (k : Keyword) (rest : List Char) : Bool :=
  k == .dash || rest.head?.all isAsciiWhite

/-- The head that `word` is in front of `rest`. -/
def Head.ofWord (word rest : List Char) : Head :=
  match Keyword.ofChars? word with
  | some k => if k.endsBefore rest then .keyword k else .word
  | none => .word

/-- Splits a text after its head. A text that is empty or starts with white space has none. -/
def Head.split (text : List Char) : Option (Head × List Char) :=
  let word := text.takeWhile (!isWhite ·)
  let rest := text.dropWhile (!isWhite ·)
  if word.isEmpty then none else some (Head.ofWord word rest, rest)

/-- The argument in the text after a head: what follows the white space, trimmed, if that is not
empty. -/
def argumentIn (rest : List Char) : Option (List Char) :=
  if rest.head?.any isWhite then
    let argument := trim rest
    if argument.isEmpty then none else some argument
  else none

/-- The head of a text and the head's argument. -/
def Head.splitArgument (text : List Char) : Option Head × Option (List Char) :=
  match Head.split text with
  | some (head, rest) => (some head, argumentIn rest)
  | none => (none, none)

end Placard
