import Placard.Document.Outline

set_option relaxedAutoImplicit false
set_option autoImplicit false

/-!
# Reading a document

The first line of a source that is not blank names the template; the lines below it describe the
items. The only error is a header that is missing or malformed.

## Main definitions

* `Placard.HeaderError`: why a source is not a document, and where.
* `Placard.parse`: the document a source describes.
-/

namespace Placard

/-- The error of a source whose first line names no template. -/
structure HeaderError where
  /-- The offset of the first byte of the offending line, zero if all lines are blank. -/
  start : Nat
  /-- The offset just past that line. -/
  stop : Nat
deriving DecidableEq, Repr

/-- What the error says, whatever the source. -/
def HeaderError.message : String := "First line must be: infographic <template-name>"

/-- The message under the name of its kind. -/
def HeaderError.display (_ : HeaderError) : String := "SyntaxError: " ++ HeaderError.message

/-- The outline of a source, and the template that its header names. -/
def Outline.ofSource (source : String) : Except HeaderError (List Char × Outline) :=
  match (Line.ofSource source).dropWhile (·.isBlank) with
  | [] => .error { start := 0, stop := 0 }
  | header :: body =>
    match header.argumentOf? .infographic with
    | some template => .ok (template, Outline.read {} body)
    | none => .error { start := header.start, stop := header.stop }

/-- The document that a source describes. -/
def parse (source : String) : Except HeaderError Document :=
  (Outline.ofSource source).map fun (template, outline) => outline.toDocument template

end Placard
