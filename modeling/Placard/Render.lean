import Placard.Document.Parse
import Placard.Drawing.Board
import Placard.Lint
import Placard.Markup.Page

set_option relaxedAutoImplicit false
set_option autoImplicit false

/-!
# From a source to markup

## Main definitions

* `Placard.RenderOptions`: how a document is drawn and written.
* `Placard.RenderError`: why a source is not rendered.
* `Placard.render`, `Placard.renderWithLint`: the markup of the drawing of a source.
-/

namespace Placard

/-- How a document is drawn and written. -/
structure RenderOptions where
  /-- How it is drawn. -/
  draw : DrawOptions := {}
  /-- How the drawing is written. -/
  page : PageOptions := {}
  /-- Where colors come from. -/
  stylesheet : Stylesheet := Stylesheet.builtin

/-- Why a source is not rendered. -/
inductive RenderError where
  /-- The source is not a document. -/
  | header (e : HeaderError)
deriving DecidableEq, Repr

/-- What the error says. -/
def RenderError.message : RenderError → String
  | .header e => "parse error: " ++ e.display

/-- The markup of a document. -/
def Document.render (d : Document) (options : RenderOptions) : String :=
  (d.draw options.draw options.stylesheet).page options.page

/-- The figure of the document that a source describes. -/
def drawSource (source : String) (options : RenderOptions) : Except RenderError Figure :=
  match parse source with
  | .ok d => .ok (d.draw options.draw options.stylesheet)
  | .error e => .error (.header e)

/-- The markup of the document that a source describes. -/
def render (source : String) (options : RenderOptions) : Except RenderError String :=
  (drawSource source options).map (·.page options.page)

/-- The markup of the document that a source describes, and the findings for it. -/
def renderWithLint (source : String) (options : RenderOptions) :
    Except RenderError (String × List Finding) :=
  match parse source with
  | .ok d => .ok (d.render options, d.lint)
  | .error e => .error (.header e)

end Placard
