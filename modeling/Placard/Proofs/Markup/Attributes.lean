import Mathlib.Tactic.Lemma
import Placard.Markup.Tag

set_option relaxedAutoImplicit false
set_option autoImplicit false

/-!
# What attributes hold

The style attribute declares properties, the outline of a slice is a sequence of words, and a view
box is four numbers. This file says what these texts are without regard to how they are put
together, and shows that they are written so.

## Main definitions

* `Placard.Style.declaration`: a style property as it is declared.
* `Placard.ViewBox.numbers`: the numbers of a view box.
* `Placard.Wedge.outline`: the words of the outline of a slice.

## Main results

* `Placard.Markup.writeStyle_eq`, `Placard.Markup.writeBox_eq`, `Placard.Wedge.path_eq`: this is
  what is written.
-/

namespace Placard

/-! ## Styles -/

/-- The value of a style property as it is declared: a percentage with its sign, a color as it is
and a whole number in digits. -/
def StyleValue.text : StyleValue → String
  | .percent x => floatText x ++ "%"
  | .color c => c
  | .index n => String.ofList (Nat.toDigits 10 n)

namespace Style

/-- The name of a style property as it is declared. That of a custom property starts with two
dashes, and has the class prefix behind these. -/
def declaredName (classPrefix : String) (s : Style) : String :=
  if ['-', '-'] <+: s.name.toList then
    String.ofList (['-', '-'] ++ classPrefix.toList ++ s.name.toList.drop 2)
  else s.name

/-- A style property as it is declared. -/
def declaration (classPrefix : String) (s : Style) : String :=
  s.declaredName classPrefix ++ ": " ++ s.value.text

variable {classPrefix : String} {s : Style}

lemma declaredName_of_custom {rest : List Char} (h : s.name.toList = '-' :: '-' :: rest) :
    s.declaredName classPrefix = "--" ++ classPrefix ++ String.ofList rest := by
  have hcustom : ['-', '-'] <+: s.name.toList := by
    rw [h]
    exact ⟨rest, rfl⟩
  rw [declaredName, if_pos hcustom, h, String.ofList_append, String.ofList_append,
    String.ofList_toList]
  rfl

lemma declaredName_of_not_custom (h : ∀ rest, s.name.toList ≠ '-' :: '-' :: rest) :
    s.declaredName classPrefix = s.name := by
  refine if_neg ?_
  rintro ⟨rest, hrest⟩
  exact h rest hrest.symm

end Style

/-! ## View boxes and outlines -/

/-- The numbers of a view box: where it starts, and how wide and how high it is. -/
def ViewBox.numbers (b : ViewBox) : List Float := [b.x, b.y, b.width, b.height]

namespace Wedge

/-- The words for the point of the unit circle at an angle. -/
def rim (angle : Float) : List String := [floatText angle.cos, floatText angle.sin]

/-- The words for an arc of the unit circle, clockwise to an angle. The flag is `1` for an arc of
more than half a turn. -/
def arc (flag : String) (angle : Float) : List String :=
  ["A", "1", "1", "0", flag, "1"] ++ rim angle

/-- The words of the outline of a slice: from the center to its first edge, around to its last edge
and back. A full turn goes around in two halves. -/
def outline (w : Wedge) : List String :=
  ["M", "0", "0", "L"] ++ rim w.start ++
    (if 2 * halfTurn - fullTurnSlack ≤ w.sweep then
      arc "0" (w.start + halfTurn) ++ arc "0" w.start
    else arc (if halfTurn < w.sweep then "1" else "0") (w.start + w.sweep)) ++
    ["Z"]

end Wedge

/-! ## What is written -/

/-- **A style property is written as it is declared.** -/
theorem Markup.writeStyle_eq (classPrefix : String) (s : Style) :
    writeStyle classPrefix s = s.declaration classPrefix := by
  rw [writeStyle, Style.declaration]
  split
  · next rest h =>
    rw [Style.declaredName_of_custom h]
    cases s.value <;> rfl
  · next h =>
    rw [Style.declaredName_of_not_custom h]
    cases s.value <;> rfl

/-- **A view box is written as its numbers.** -/
theorem Markup.writeBox_eq (b : ViewBox) :
    writeBox b = " ".intercalate (b.numbers.map floatText) :=
  rfl

/-- **An outline is written as its words.** -/
theorem Wedge.path_eq (w : Wedge) : w.path = " ".intercalate w.outline := by
  rw [path, arcs, outline, Slice.isFullTurn, String.ext_iff]
  by_cases hturn : 2 * halfTurn - fullTurnSlack ≤ w.sweep
  · rw [if_pos (decide_eq_true hturn), if_pos hturn]
    simp [arcTo, arc, rim, Point.text, Point.onUnitCircle]
  · rw [if_neg (by simpa using hturn), if_neg hturn, Slice.finish]
    simp [arcTo, arc, rim, Point.text, Point.onUnitCircle]

end Placard
