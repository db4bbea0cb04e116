import Placard.Proofs.Drawing.Parts
import Placard.Proofs.Drawing.Places
import Placard.Proofs.Lint.Findings

set_option relaxedAutoImplicit false
set_option autoImplicit false

/-!
# No silent degradation

A chart draws a value that is no number, not finite or negative as zero, and a card shows a sign in
place of an icon that does not split. Lint walks over the items on its own, by its own conditions.
This file shows that it reports exactly the values that are not drawn as they are, and every icon
that is drawn as a sign.

## Main definitions

* `Placard.Document.MarksBrokenIcon`: a sign stands in the entry of an item with a broken icon.

## Main results

* `Placard.Document.marksBrokenIcon_of_mem_findAll`: all signs for icons in a drawing do.
* `Placard.Document.lint_reports_degradation`: lint and drawing agree on values and icons.
-/

namespace Placard

namespace Figure

variable {f : Figure} {fs : List Figure} {name : String}

lemma hasClass_iff : f.hasClass name = true ↔ name ∈ f.classes := List.contains_iff_mem

/-- No ordinary figure is a sign in place of an icon. -/
lemma Ordinary.not_hasClass (h : f.Ordinary) : ¬ f.hasClass fallbackClass = true := by
  intro hclass
  have hplain := List.all_eq_true.mp h.classes fallbackClass (hasClass_iff.mp hclass)
  exact absurd hplain (by decide)

/-- There is none in ordinary figures. -/
lemma findAll_of_ordinary (h : f.Every Ordinary) : f.findAll fallbackClass = [] := by
  rw [List.eq_nil_iff_forall_not_mem]
  intro sign hsign
  obtain ⟨hordinary, hclass⟩ := of_mem_findAll f h hsign
  exact hordinary.not_hasClass hclass

lemma findAllIn_of_ordinary (h : EveryIn Ordinary fs) : findAllIn fallbackClass fs = [] :=
  findAllIn_eq_nil fun f hf => findAll_of_ordinary (everyIn_iff.mp h f hf)

/-- The figure of an icon that splits is none either. -/
lemma not_splits_of_hasClass {reference : String}
    (h : (Icon.figure reference).hasClass fallbackClass = true) : ¬ Icon.Splits reference := by
  intro hsplits
  rw [← Icon.isSome_split?_iff, Option.isSome_iff_exists] at hsplits
  obtain ⟨parts, hparts⟩ := hsplits
  rw [Icon.figure, hparts] at h
  cases h

end Figure

namespace Document

open Figure

variable (d : Document) (options : DrawOptions) (sheet : Stylesheet)

/-- Whether a sign stands in an entry of the layout whose item has a broken icon. -/
def MarksBrokenIcon (board sign : Figure) : Prop :=
  ∃ (i : Nat) (entry : Figure) (item : Item), board.children[i]? = some entry ∧
    d.items[i]? = some item ∧ sign ∈ entry.findAll fallbackClass ∧ item.BrokenIcon

/-- The boxes around a layout are no signs. -/
lemma not_hasClass_content (fill : Nat → String) :
    (d.content fill).hasClass fallbackClass = false := by
  rw [Bool.eq_false_iff, Ne, hasClass_iff]
  have hcategory : "category-" ++ (Category.ofTemplate d.template).name ≠ fallbackClass :=
    append_ne_of_head? (by decide) (by decide)
  have htemplate : "template-" ++ d.template ≠ fallbackClass :=
    append_ne_of_head? (by decide) (by decide)
  have hcontent : "content" ≠ fallbackClass := by decide
  simp [content, hcategory.symm, htemplate.symm, hcontent.symm]

lemma not_hasClass_draw : (d.draw options sheet).hasClass fallbackClass = false := by
  rw [Bool.eq_false_iff, Ne, hasClass_iff]
  have hscheme : "scheme-" ++ d.schemeName options sheet ≠ fallbackClass :=
    append_ne_of_head? (by decide) (by decide)
  have hmode : options.mode.name ≠ fallbackClass := by
    cases options.mode <;> decide
  have hwrapper : "wrapper" ≠ fallbackClass := by decide
  have hanimated : "animated" ≠ fallbackClass := by decide
  cases hoption : options.animated <;>
    simp [draw, hoption, hscheme.symm, hmode.symm, hwrapper.symm, hanimated.symm]

/-- The signs in a drawing are those in its layout. -/
lemma findAll_draw : (d.draw options sheet).findAll fallbackClass =
    ((Layout.ofTemplate d.template).draw d.items
      (sheet.pieColor options.mode)).findAll fallbackClass := by
  have htitle : EveryIn Ordinary (Drawing.optionalText "title" d.title) :=
    Drawing.everyIn_optionalText (by decide) d.title
  rw [findAll_of_not_hasClass (d.not_hasClass_draw options sheet), draw, findAllIn_append,
    findAllIn_of_ordinary htitle, List.nil_append, findAllIn, findAllIn, List.append_nil,
    findAll_of_not_hasClass (d.not_hasClass_content _), content, findAllIn, findAllIn,
    List.append_nil]

/-- A card shows a sign only if the icon of its item is broken. -/
lemma brokenIcon_of_mem_findAll_card {name : String} (hname : isPlainClass name = true)
    {item : Item} {sign : Figure}
    (h : sign ∈ (Drawing.card name item).findAll fallbackClass) : item.BrokenIcon := by
  obtain ⟨hpart, hclass⟩ := of_mem_findAll _ (Drawing.every_card hname item) h
  rcases hpart with hordinary | ⟨reference, hreference, rfl⟩
  · exact absurd hclass hordinary.not_hasClass
  · exact ⟨reference, Option.mem_toList.mp hreference, not_splits_of_hasClass hclass⟩

/-- **All signs for icons in a drawing stand in entries of items whose icons are broken.**

**Proof sketch.** Only a grid has other than ordinary figures (`Layout.every_ordinary_draw`), and
its entries are the cards of the items, in order. -/
theorem marksBrokenIcon_of_mem_findAll {sign : Figure}
    (h : sign ∈ (d.draw options sheet).findAll fallbackClass) :
    ∃ board, (d.draw options sheet).board? = some board ∧ d.MarksBrokenIcon board sign := by
  refine ⟨_, d.board?_draw options sheet, ?_⟩
  rw [findAll_draw] at h
  generalize Layout.ofTemplate d.template = layout at h ⊢
  by_cases hgrid : layout.IsGrid
  · obtain ⟨compact, rfl⟩ := hgrid
    have hnot : ((Layout.list (.grid compact)).draw d.items
        (sheet.pieColor options.mode)).hasClass fallbackClass = false := rfl
    rw [findAll_of_not_hasClass hnot, mem_findAllIn] at h
    obtain ⟨entry, hentry, hsign⟩ := h
    obtain ⟨i, hi⟩ := List.mem_iff_getElem?.mp hentry
    have hget := hi
    rw [Layout.draw, Drawing.rows, block, List.getElem?_map, Option.map_eq_some_iff] at hget
    obtain ⟨item, hitem, rfl⟩ := hget
    exact ⟨i, _, item, hi, hitem, hsign,
      brokenIcon_of_mem_findAll_card (Layout.isPlainClass_card compact) hsign⟩
  · rw [findAll_of_ordinary (Layout.every_ordinary_draw hgrid d.items _)] at h
    cases h

/-- **No value and no icon is degraded silently.** In a chart, lint has one finding for each item
whose value is not a finite number above or equal to zero, in order, and these are the items that
are not drawn with their own value; and it has one finding about the chart iff there are items and
all of them are drawn as zero. In any other layout there are no such findings. In every layout lint
has one finding for each item at any depth whose icon does not split, in order, and every sign that
is drawn in place of an icon stands in the entry of such an item.

**Proof sketch.** The findings are sorted by kind (`findingsOf_value`, `findingsOf_chart`,
`findingsOf_icon`), a number is drawn as it is iff it is finite and not below zero
(`Item.charted_iff`), and the signs of a drawing are those of its cards
(`marksBrokenIcon_of_mem_findAll`). -/
theorem lint_reports_degradation :
    (match Layout.ofTemplate d.template with
      | .chart _ =>
        d.findingsOf .value = (d.items.filter (¬ ·.Charted)).map Item.valueFinding ∧
        d.findingsOf .chart = if d.ChartsNothing then [.emptyChart] else []
      | _ => d.findingsOf .value = [] ∧ d.findingsOf .chart = []) ∧
    (∀ item : Item, item.Charted ↔
      ∃ x, item.value = some (.number x) ∧ (item.magnitude == x) = true) ∧
    d.findingsOf .icon = ((Item.depthFirst d.items).filter (·.BrokenIcon)).map Item.iconFinding ∧
    (∀ item, item ∈ Item.depthFirst d.items ↔ ∃ path, d.item? path = some item) ∧
    ∀ sign ∈ (d.draw options sheet).findAll "icon-fallback",
      ∃ board, (d.draw options sheet).board? = some board ∧ d.MarksBrokenIcon board sign := by
  refine ⟨?_, fun item => Item.charted_iff, d.findingsOf_icon,
    fun item => Item.mem_depthFirst_iff d,
    fun sign hsign => d.marksBrokenIcon_of_mem_findAll options sheet hsign⟩
  split
  · next layout hlayout => exact ⟨findingsOf_value hlayout, findingsOf_chart hlayout⟩
  · next hlayout =>
    have hnone := lintChart_of_not_chart hlayout
    rw [findingsOf_of_chart d (.inl rfl), findingsOf_of_chart d (.inr rfl), hnone]
    exact ⟨rfl, rfl⟩

/-- The zero with a minus sign is charted, and so drawn as it is. -/
example : ({ label := "a", value := some (.number (-0.0)) } : Item).Charted := by
  decide

end Document

end Placard
