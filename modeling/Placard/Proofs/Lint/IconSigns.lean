import Placard.Proofs.Lint.Degradation

set_option relaxedAutoImplicit false
set_option autoImplicit false

/-!
# Broken icons and their signs

Lint reports a broken icon wherever the item stands and whatever the layout is. Only the cards of a
grid show icons, and only items at the top have cards. So there can be more findings about icons
than signs in a drawing. This file counts both, and says when they are as many.

## Main definitions

* `Placard.Icon.fallback`: the sign in place of an icon that does not split.

## Main results

* `Placard.Drawing.findAll_card`: a card shows a sign iff the icon of its item is broken.
* `Placard.Document.findAll_fallback_draw`: the signs in a drawing.
* `Placard.Document.icon_signs_of_findings`: the numbers of findings and of signs.
-/

namespace Placard

/-- The sign in place of an icon that does not split. -/
def Icon.fallback : Figure := .sign Figure.fallbackClass Icon.fallbackSign

/-! ## Items at the top -/

namespace Item

section Top

variable {a : Item} {items : List Item} {n level : Nat}

lemma le_of_mem_depthFirstFrom (h : (n, a) ∈ depthFirstFrom level items) : level ≤ n := by
  obtain ⟨i, path, rfl, -⟩ := exists_getElem?_of_mem level items h
  exact Nat.le_add_right level path.length

/-- The items at the top are those of depth zero. -/
lemma filter_depth_zero (items : List Item) :
    (depthFirstFrom 0 items).filter (·.1 == 0) = items.map (Prod.mk 0) := by
  induction items with
  | nil => rfl
  | cons item items ih =>
    have hbelow : (depthFirstFrom 1 item.childList).filter (·.1 == 0) = [] := by
      rw [List.filter_eq_nil_iff]
      rintro ⟨n, a⟩ hmem
      have hle := le_of_mem_depthFirstFrom hmem
      simp only [beq_iff_eq]
      omega
    rw [depthFirstFrom, List.filter_append, ih, subtreeFrom_eq, List.filter_cons_of_pos rfl, hbelow]
    rfl

end Top

end Item

/-! ## Signs -/

instance (layout : Layout) : Decidable layout.IsGrid :=
  decidable_of_iff (layout = .list (.grid false) ∨ layout = .list (.grid true))
    ⟨fun h => h.elim (fun h => ⟨false, h⟩) fun h => ⟨true, h⟩,
      fun ⟨compact, h⟩ => by cases compact <;> simp [h]⟩

namespace Drawing

open Figure

lemma findAll_icon (reference : String) : (Icon.figure reference).findAll fallbackClass =
    if Icon.Splits reference then [] else [Icon.fallback] := by
  by_cases hsplits : Icon.Splits reference
  · have hsome := (Icon.isSome_split?_iff reference).mpr hsplits
    obtain ⟨parts, hparts⟩ := Option.isSome_iff_exists.mp hsome
    rw [if_pos hsplits, Icon.figure, hparts]
    rfl
  · rw [← Icon.isSome_split?_iff, Option.not_isSome_iff_eq_none] at hsplits
    rw [if_neg, Icon.figure, hsplits]
    · rfl
    · rw [← Icon.isSome_split?_iff, hsplits]
      exact Bool.false_ne_true

/-- **A card shows a sign iff the icon of its item is broken.** -/
theorem findAll_card {name : String} (hname : isPlainClass name = true) (item : Item) :
    (card name item).findAll fallbackClass = if item.BrokenIcon then [Icon.fallback] else [] := by
  have hcard : (card name item).hasClass fallbackClass = false := by
    rw [isPlainClass, Bool.and_eq_true, bne_iff_ne] at hname
    rw [Bool.eq_false_iff, Ne, hasClass_iff, card, block, List.mem_singleton]
    exact fun h => hname.2 h.symm
  have hicon : findAllIn fallbackClass
      (item.icon.map fun icon => block "card-icon" [Icon.figure icon]).toList =
        if item.BrokenIcon then [Icon.fallback] else [] := by
    cases hsome : item.icon with
    | none =>
      rw [if_neg (Item.not_brokenIcon hsome), Option.map_none, Option.toList_none, findAllIn]
    | some reference =>
      have hbox : (block "card-icon" [Icon.figure reference]).hasClass fallbackClass = false := rfl
      rw [Option.map_some, Option.toList_some, findAllIn, findAllIn, List.append_nil,
        findAll_of_not_hasClass hbox, block, findAllIn, findAllIn, List.append_nil, findAll_icon]
      simp only [Item.brokenIcon_iff hsome, ite_not]
  have hothers : EveryIn Ordinary ([textBlock "card-label" item.label] ++
      (optionalText "card-desc" item.desc ++
        optionalText "card-value" (item.value.map Value.display))) :=
    everyIn_append ⟨every_textBlock (by decide) _, trivial⟩
      (everyIn_append (everyIn_optionalText (by decide) _) (everyIn_optionalText (by decide) _))
  rw [findAll_of_not_hasClass hcard, card, block, List.append_assoc, List.append_assoc,
    findAllIn_append, hicon, findAllIn_of_ordinary hothers, List.append_nil]

end Drawing

namespace Document

open Figure

variable (d : Document) (options : DrawOptions) (sheet : Stylesheet)

lemma flatMap_ite_singleton (items : List Item) :
    (items.flatMap fun item => if item.BrokenIcon then [Icon.fallback] else []) =
      (items.filter (·.BrokenIcon)).map fun _ => Icon.fallback := by
  induction items with
  | nil => rfl
  | cons item items ih =>
    rw [List.flatMap_cons, ih]
    by_cases h : item.BrokenIcon <;> simp [h]

/-- **The signs in a drawing** are those of the broken icons at the top, if the layout is a grid. -/
theorem findAll_fallback_draw : (d.draw options sheet).findAll fallbackClass =
    if (Layout.ofTemplate d.template).IsGrid then
      (d.items.filter (·.BrokenIcon)).map fun _ => Icon.fallback
    else [] := by
  rw [findAll_draw]
  split
  · next hgrid =>
    obtain ⟨compact, hlayout⟩ := hgrid
    rw [hlayout, Layout.draw, Drawing.rows, findAll_of_not_hasClass (by rfl), block,
      findAllIn_eq_flatMap, List.flatMap_map]
    simp only [Drawing.findAll_card (Layout.isPlainClass_card compact)]
    exact flatMap_ite_singleton d.items
  · next hgrid => exact findAll_of_ordinary (Layout.every_ordinary_draw hgrid d.items _)

/-- The signs are as many as the broken icons of the items that have cards. -/
lemma length_signs : ((d.draw options sheet).findAll fallbackClass).length =
    (((Item.depthFirstFrom 0 d.items).filter (·.2.BrokenIcon)).filter fun p =>
      (Layout.ofTemplate d.template).IsGrid ∧ p.1 = 0).length := by
  rw [findAll_fallback_draw]
  split
  · next hgrid =>
    have htop := Item.filter_depth_zero d.items
    simp only [beq_eq_decide] at htop
    simp only [hgrid, true_and]
    rw [List.filter_comm, htop, List.filter_map, List.length_map, List.length_map]
    rfl
  · next hgrid =>
    simp only [hgrid, false_and, decide_false]
    rw [List.filter_eq_nil_iff.mpr fun _ _ => Bool.false_ne_true]
    rfl

/-- The findings are as many as the broken icons. -/
lemma length_findings_icon : (d.findingsOf .icon).length =
    ((Item.depthFirstFrom 0 d.items).filter (·.2.BrokenIcon)).length := by
  rw [findingsOf_icon, List.length_map, ← Item.map_snd_depthFirstFrom 0, List.filter_map,
    List.length_map]
  rfl

/-- **The numbers of findings about icons and of signs.** Lint has one finding for each item at any
depth whose icon is broken, in every layout. A drawing has one sign for each such item at the top if
the layout is a grid, and none in any other layout. So there are at least as many findings as signs,
and as many iff all items with broken icons stand at the top of a grid.

**Proof sketch.** A card shows a sign iff its icon is broken (`Drawing.findAll_card`), and all other
figures are ordinary. Among the items with their depths, the findings stand for those with broken
icons, and the signs for those of them that have depth zero in a grid (`length_findings_icon`,
`length_signs`). -/
theorem icon_signs_of_findings :
    (d.findingsOf .icon).length = ((Item.depthFirst d.items).filter (·.BrokenIcon)).length ∧
      ((d.draw options sheet).findAll "icon-fallback").length =
        (if (Layout.ofTemplate d.template).IsGrid then (d.items.filter (·.BrokenIcon)).length
          else 0) ∧
      ((d.draw options sheet).findAll "icon-fallback").length ≤ (d.findingsOf .icon).length ∧
      ((d.findingsOf .icon).length = ((d.draw options sheet).findAll "icon-fallback").length ↔
        ∀ path item, d.item? path = some item → item.BrokenIcon →
          (Layout.ofTemplate d.template).IsGrid ∧ path.length = 1) := by
  have hsigns := d.length_signs options sheet
  have hcount := congrArg List.length (d.findAll_fallback_draw options sheet)
  rw [fallbackClass] at hsigns hcount
  refine ⟨?_, ?_, ?_, ?_⟩
  · rw [findingsOf_icon, List.length_map]
  · rw [hcount]
    split
    · rw [List.length_map]
    · rfl
  · rw [hsigns, length_findings_icon]
    exact List.length_filter_le _ _
  · rw [hsigns, length_findings_icon, eq_comm, List.length_filter_eq_length_iff]
    constructor
    · intro hall path item hpath hbroken
      cases path with
      | nil => cases hpath
      | cons i path =>
        have hmem := Item.mem_depthFirstFrom_iff.mpr ⟨i :: path, List.length_cons, hpath⟩
        have hshown := hall _ (List.mem_filter.mpr ⟨hmem, decide_eq_true hbroken⟩)
        obtain ⟨hgrid, hzero⟩ := of_decide_eq_true hshown
        exact ⟨hgrid, congrArg (· + 1) hzero⟩
    · rintro hall ⟨n, item⟩ hmem
      obtain ⟨hmem, hbroken⟩ := List.mem_filter.mp hmem
      obtain ⟨path, hlength, hpath⟩ := Item.mem_depthFirstFrom_iff.mp hmem
      obtain ⟨hgrid, hone⟩ := hall path item hpath (of_decide_eq_true hbroken)
      exact decide_eq_true ⟨hgrid, by omega⟩

/-- A tree with a broken icon: trees show no icons. -/
def brokenLeaf : Document where
  template := "hierarchy-tree-curved-line-rounded-rect-node"
  items := [{ label := "Root", icon := some "mdi:home",
              children := some [{ label := "Leaf", icon := some "leaf" }] }]

/-- **There may be more findings about icons than signs**: lint reports a broken icon in a tree. -/
theorem not_icon_signs_of_findings : ¬ ∀ (d : Document) (options : DrawOptions)
    (sheet : Stylesheet), (d.findingsOf .icon).length =
      ((d.draw options sheet).findAll "icon-fallback").length := by
  intro hequal
  have hfindings : (brokenLeaf.findingsOf .icon).length = 1 := by decide
  have hsigns : ((brokenLeaf.draw {} .builtin).findAll "icon-fallback").length = 0 := by decide
  have hboth := hequal brokenLeaf {} .builtin
  omega

end Document

end Placard
