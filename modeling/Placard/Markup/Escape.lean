set_option relaxedAutoImplicit false
set_option autoImplicit false

/-!
# Escaping

Five characters have a meaning in markup and are written as entities. A text can be escaped
character by character, or in five passes over the whole of it, each of which replaces one of the
characters. The first pass has to be the one for the ampersand, since the entities start with it.

## Main definitions

* `Placard.Markup.entity?`: the entity of a character.
* `Placard.Markup.escape`: a text as it stands in markup.
* `Placard.Markup.passes`, `Placard.Markup.escapeInPasses`: the same in five passes.
-/

namespace Placard.Markup

/-- The entity of a character that has a meaning in markup. -/
def entity? : Char → Option String
  | '&' => some "&amp;"
  | '<' => some "&lt;"
  | '>' => some "&gt;"
  | '"' => some "&quot;"
  | '\'' => some "&#39;"
  | _ => none

/-- A character as it stands in markup. -/
def escapeChar (c : Char) : List Char :=
  match entity? c with
  | some entity => entity.toList
  | none => [c]

/-- A text as it stands in markup. -/
def escape (s : String) : String := String.ofList (s.toList.flatMap escapeChar)

/-- The text with another one in place of each occurrence of a character. -/
def replaceAll (mark : Char) (replacement : String) (text : List Char) : List Char :=
  text.flatMap fun c => if c = mark then replacement.toList else [c]

/-- The text after passes over it, each of which replaces a character. -/
def runPasses (passes : List (Char × String)) (text : List Char) : List Char :=
  passes.foldl (fun text pass => replaceAll pass.1 pass.2 text) text

/-- The characters that are escaped, in the order of the passes, with their entities. -/
def passes : List (Char × String) :=
  [('&', "&amp;"), ('<', "&lt;"), ('>', "&gt;"), ('"', "&quot;"), ('\'', "&#39;")]

/-- A text as it stands in markup, made by one pass over the whole of it for each of the characters
that have an entity. -/
def escapeInPasses (s : String) : String := String.ofList (runPasses passes s.toList)

end Placard.Markup
