import Placard.Proofs.Drawing.Parts
import Placard.Proofs.Markup.Tree
import Placard.Render

set_option relaxedAutoImplicit false
set_option autoImplicit false

/-!
# The signs of a drawing

A drawing shows three signs: an arrow, a check mark and a bullet in place of an icon. None of them
has a meaning in markup, and no text of a document is ever drawn as a sign. So whatever stands in a
source, the markup of its drawing is read back as that drawing.

## Main results

* `Placard.Document.plainSigns_draw`: the signs of a drawing need no escaping.
* `Placard.Document.readMarkup_render`: a document is read back from its markup as it was drawn.
-/

namespace Placard

open Markup

namespace Figure

/-- Whether a figure needs no escaping if it is a sign. -/
def PlainSign (f : Figure) : Prop := ∀ s, f.shape.sign? = some s → Plain s

mutual

/-- The signs in a figure need no escaping if none of its figures does. -/
lemma plainSigns_of_every (f : Figure) (h : f.Every PlainSign) : f.PlainSigns := by
  match f with
  | ⟨shape, classes, text, styles, children⟩ =>
    have hbelow := plainSignsAll_of_everyIn children h.2
    cases shape with
    | glyph sign => exact h.1 sign rfl
    | icon reference => trivial
    | wedge w => trivial
    | block => exact hbelow
    | inline => exact hbelow
    | list => exact hbelow
    | listItem => exact hbelow
    | chart box => exact hbelow

lemma plainSignsAll_of_everyIn (fs : List Figure) (h : EveryIn PlainSign fs) :
    PlainSignsAll fs := by
  match fs with
  | [] => trivial
  | f :: fs => exact ⟨plainSigns_of_every f h.1, plainSignsAll_of_everyIn fs h.2⟩

end

lemma plainSign_icon (reference : String) : (Icon.figure reference).PlainSign := by
  intro s hs
  rw [Icon.figure] at hs
  split at hs
  · cases hs
  · obtain rfl := Option.some.inj hs
    exact plain_of_all rfl

end Figure

namespace Document

/-- **The signs of a drawing need no escaping**, whatever the document and the stylesheet.

**Proof sketch.** The ordinary figures have plain signs by what they are, and the others are those
of icons (`every_draw`). -/
theorem plainSigns_draw (d : Document) (options : DrawOptions) (sheet : Stylesheet) :
    (d.draw options sheet).PlainSigns := by
  refine Figure.plainSigns_of_every _ (every_draw ?_ ?_ ?_)
  · rintro g (hordinary | ⟨reference, -, rfl⟩)
    · exact hordinary.sign
    · exact Figure.plainSign_icon reference
  · intro s hs
    cases hs
  · intro s hs
    cases hs

/-- **A document is read back as it was drawn.** Whatever the texts of a document, its compact
markup is read as the tree of its drawing. -/
theorem readMarkup_render (d : Document) (options : DrawOptions) (sheet : Stylesheet)
    (classPrefix : String) :
    readMarkup (d.render
      { draw := options
        page := { standalone := false, pretty := false, classPrefix }
        stylesheet := sheet }) =
      some [(d.draw options sheet).drawn classPrefix] := by
  have hsigns := plainSigns_draw d options sheet
  rw [render, Figure.page_eq_compact, Figure.readMarkup_compact _ classPrefix hsigns]

end Document

end Placard
