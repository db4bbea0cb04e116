set_option relaxedAutoImplicit false
set_option autoImplicit false

/-!
# Texts inside texts

## Main definitions

* `Placard.Text.contains`: whether a text holds a word somewhere.
* `Placard.Text.splitAtFirst?`: a text divided at the first place where a character stands.
-/

namespace Placard.Text

/-- Whether the word stands somewhere in the text. -/
def contains (word : List Char) : List Char → Bool
  | [] => word.isEmpty
  | c :: cs => word.isPrefixOf (c :: cs) || contains word cs

/-- The texts before and after the first place where the mark stands. -/
def splitAtFirst? (mark : Char) (cs : List Char) : Option (List Char × List Char) :=
  match cs.dropWhile (· != mark) with
  | [] => none
  | _ :: rest => some (cs.takeWhile (· != mark), rest)

end Placard.Text
