import Mathlib.Data.List.Forall2
import Mathlib.Tactic.Lemma
import Placard.Drawing.Board
import Placard.Proofs.Figure.Search

set_option relaxedAutoImplicit false
set_option autoImplicit false

/-!
# One entry for each item

Most layouts draw a figure for every item at the top, in the order of the items. In each of them the
label of an item stands in a figure with the same class name. This file reads the labels off the
drawing by that name.

## Main definitions

* `Placard.Layout.entriesIn`: the figures inside the figure of a layout that stand for items.
* `Placard.Layout.labelClass`: the class name of the figures with the labels.
* `Placard.Layout.DrawsEach`: every item has an entry that shows its label, in order.

## Main results

* `Placard.Layout.drawsEach_rows` and its siblings: lists, sequences, trees and charts draw each
  item.
-/

namespace Placard

namespace Figure

/-! ### Searching -/

section Find

variable {name : String} {f : Figure}

/-- The text of the first figure in the tree that carries the class name. -/
def shownAt? (name : String) (f : Figure) : Option String := (f.find? name).bind (·.text)

lemma shownAt?_eq (found : Figure) (h : f.hasClass name = false)
    (hfound : findIn? name f.children = some found) : f.shownAt? name = found.text := by
  rw [shownAt?, find?_of_not_hasClass h, hfound, Option.bind_some]

end Find

end Figure

/-! ## Entries of a layout -/

namespace Layout

/-- The class name of the figures that show the labels of the items. -/
def labelClass : Layout → String
  | .list .horizontalArrow => "item-label"
  | .list (.grid _) => "card-label"
  | .list .doneList => "done-label"
  | .sequence .steps => "step-label"
  | .sequence .timeline => "timeline-label"
  | .sequence .snake => "snake-label"
  | .sequence .ascending => "ascending-label"
  | .sequence .zigzag => "zigzag-label"
  | .hierarchy _ => "tree-label"
  | .chart .pie => "legend-label"
  | .chart .bar => "bar-label"
  | .chart .column => "column-label"
  | .compare .swot => "swot-header"
  | .compare .binary => "compare-header"
  | .quadrant => "quadrant-header"

/-- The figures inside that of the layout that stand for items: those of the legend of a pie, those
of the box with the columns, else all of them. -/
def entriesIn (layout : Layout) (board : Figure) : List Figure :=
  match layout with
  | .chart .pie => (board.childrenWithClass "pie-legend").flatMap (·.children)
  | .chart .column => (board.childrenWithClass "columns").flatMap (·.children)
  | _ => board.children

/-- Whether a figure shows the label of an item; the legend of a pie shows its share behind it. -/
def Shows (layout : Layout) (item : Item) (f : Figure) : Prop :=
  match layout with
  | .chart .pie =>
    ∃ share, f.shownAt? layout.labelClass = some (item.label ++ " (" ++ share ++ "%)")
  | _ => f.shownAt? layout.labelClass = some item.label

/-- Whether every item has an entry that shows its label, in order, and each entry is that of an
item. In a pie every item has a slice, too. -/
structure DrawsEach (layout : Layout) (board : Figure) (items : List Item) : Prop where
  /-- The entries are those of the items. -/
  entries : List.Forall₂ layout.Shows items (layout.entriesIn board)
  /-- There are as many slices as items. -/
  slices : layout = .chart .pie →
    ((board.childrenWithClass "pie-svg").flatMap (·.children)).length = items.length

end Layout

section Forall₂

variable {α β γ : Type}

lemma forall₂_map_self {R : α → β → Prop} {f : α → β} (h : ∀ a, R a (f a)) (as : List α) :
    List.Forall₂ R as (as.map f) := by
  rw [List.forall₂_map_right_iff, List.forall₂_same]
  exact fun a _ => h a

lemma forall₂_mapIdx {R : α → β → Prop} {f : Nat → α → β} (h : ∀ i a, R a (f i a))
    (as : List α) : List.Forall₂ R as (as.mapIdx f) := by
  induction as generalizing f with
  | nil => exact .nil
  | cons a as ih =>
    rw [List.mapIdx_cons]
    exact .cons (h 0 a) (ih fun i => h (i + 1))

lemma forall₂_zipWith {R : α → γ → Prop} {f : α → β → γ} (h : ∀ a b, R a (f a b)) {as : List α}
    {bs : List β} (hlen : bs.length = as.length) :
    List.Forall₂ R as (List.zipWith f as bs) := by
  induction as generalizing bs with
  | nil => exact .nil
  | cons a as ih =>
    cases bs with
    | nil => cases hlen
    | cons b bs => exact .cons (h a b) (ih (Nat.succ.inj hlen))

end Forall₂

namespace Drawing

open Figure

/-! ### Plain lists -/

lemma shownAt?_arrowNode (count index : Nat) (item : Item) :
    (arrowNode count index item).shownAt? "item-label" = some item.label := by
  refine shownAt?_eq (.textBlock "item-label" item.label) (by rfl) ?_
  rw [arrowNode, block, List.cons_append, findIn?_cons_of_leaf (by rfl) rfl]
  exact findIn?_cons_of_eq_some (by rfl) (findIn?_cons_of_hasClass (by rfl) _) _

lemma findIn?_icon (reference : String) :
    findIn? "card-label" [Icon.figure reference] = none := by
  rw [Icon.figure]
  split <;> rfl

/-- The icon of a card shows no label. -/
lemma shownAt?_card {name : String} (hname : (block name []).hasClass "card-label" = false)
    (item : Item) : (card name item).shownAt? "card-label" = some item.label := by
  refine shownAt?_eq (.textBlock "card-label" item.label) hname ?_
  rw [card, block, List.append_assoc, List.append_assoc]
  cases item.icon with
  | none => exact findIn?_cons_of_hasClass (by rfl) _
  | some reference =>
    have hicon : find? "card-label" (block "card-icon" [Icon.figure reference]) = none :=
      (find?_of_not_hasClass (by rfl)).trans (findIn?_icon reference)
    rw [Option.map_some, Option.toList_some, List.singleton_append, findIn?_cons, hicon,
      Option.none_or]
    exact findIn?_cons_of_hasClass (by rfl) _

lemma shownAt?_checkRow (item : Item) :
    (checkRow item).shownAt? "done-label" = some item.label := by
  refine shownAt?_eq (.textBlock "done-label" item.label) (by rfl) ?_
  rw [checkRow, block, findIn?_cons_of_leaf (by rfl) rfl]
  exact findIn?_cons_of_eq_some (by rfl) (findIn?_cons_of_hasClass (by rfl) _) _

/-! ### Steps -/

/-- The parts of a step in front of its texts show no label, and its side is no label's name. -/
lemma shownAt?_step {style : StepStyle} {name : String} (hname : style.part "label" = name)
    (hstep : style.step ≠ name) (hleft : "left" ≠ name) (hright : "right" ≠ name)
    (hdot : style.part "dot" ≠ name) (hnum : style.part "num" ≠ name)
    (hcontent : style.part "content" ≠ name) (count index : Nat) (item : Item) :
    (step style count index item).shownAt? name = some item.label := by
  have hside : side index ≠ name := by
    rw [side]
    split
    · exact hleft
    · exact hright
  have hclasses : (step style count index item).hasClass name = false := by
    rw [step, hasClass]
    split <;> simp [Ne.symm hstep, Ne.symm hside]
  have hmarker : (stepMarker style index).hasClass name = false ∧
      (stepMarker style index).children = [] := by
    rw [stepMarker]
    split
    · exact ⟨by simp [hasClass, block, Ne.symm hdot], rfl⟩
    · exact ⟨by simp [hasClass, textBlock, Ne.symm hnum], rfl⟩
  have htexts : ∀ fs, findIn? name (stepTexts style item ++ fs) =
      some (.textBlock (style.part "label") item.label) := by
    intro fs
    rw [stepTexts, List.cons_append, List.cons_append]
    exact findIn?_cons_of_hasClass (by simp [hasClass, textBlock, hname]) _
  refine shownAt?_eq (.textBlock (style.part "label") item.label) hclasses ?_
  rw [step, List.cons_append, findIn?_cons_of_leaf hmarker.1 hmarker.2]
  cases style.boxed with
  | false => exact htexts _
  | true =>
    have hbox := htexts []
    rw [List.append_nil] at hbox
    exact findIn?_cons_of_eq_some (by simp [hasClass, block, Ne.symm hcontent]) hbox _

/-! ### Trees -/

lemma shownAt?_branch (level : Nat) (item : Item) :
    (branch level item).shownAt? "tree-label" = some item.label := by
  obtain ⟨label, value, desc, icon, children⟩ := item
  have hnode : findIn? "tree-label" (treeNode label desc).children =
      some (.textBlock "tree-label" label) := findIn?_cons_of_hasClass (by rfl) _
  refine shownAt?_eq (.textBlock "tree-label" label) (by rfl) ?_
  rw [branch]
  exact findIn?_cons_of_eq_some (by rfl) hnode _

lemma branches_eq_map (level : Nat) (items : List Item) :
    branches level items = items.map (branch level) := by
  induction items with
  | nil => rfl
  | cons item items ih => rw [branches, ih, List.map_cons]

/-! ### Charts -/

lemma shownAt?_barRow (item : Item) (percent : Float) :
    (barRow item percent).shownAt? "bar-label" = some item.label :=
  shownAt?_eq (.textBlock "bar-label" item.label) (by rfl)
    (findIn?_cons_of_hasClass (by rfl) _)

lemma shownAt?_column (item : Item) (percent : Float) :
    (column item percent).shownAt? "column-label" = some item.label := by
  have hbar : find? "column-label"
      { classes := ["column"], styles := [⟨"height", .percent percent⟩],
        children := [.textBlock "column-value" (valueText item)] } = none :=
    (find?_of_not_hasClass (by rfl)).trans (findIn?_cons_of_leaf (by rfl) rfl [])
  refine shownAt?_eq (.textBlock "column-label" item.label) (by rfl) ?_
  rw [column, block, findIn?_cons, hbar, Option.none_or]
  exact findIn?_cons_of_hasClass (by rfl) _

lemma shownAt?_legendEntry (total : Float) (item : Item) (wedge : Wedge) :
    (legendEntry total item wedge).shownAt? "legend-label" =
      some (Chart.legendText item.label item.magnitude total) := by
  refine shownAt?_eq (.inlineText "legend-label"
    (Chart.legendText item.label item.magnitude total)) (by rfl) ?_
  rw [legendEntry, block, findIn?_cons_of_leaf (by rfl) rfl]
  exact findIn?_cons_of_hasClass (by rfl) _

lemma length_tile {α : Type} [Add α] (start : α) (sweeps : List α) :
    (Slice.tile start sweeps).length = sweeps.length := by
  induction sweeps generalizing start with
  | nil => rfl
  | cons sweep sweeps ih => rw [Slice.tile, List.length_cons, List.length_cons, ih]

/-- A pie has a slice for each item. -/
lemma length_wedges (items : List Item) (fill : Nat → String) :
    (Chart.wedges items fill).length = items.length := by
  rw [Chart.wedges, List.length_mapIdx, Chart.slices, length_tile, List.length_map,
    List.length_map]

/-- There is a percentage for each item. -/
lemma length_percentages (items : List Item) :
    (Chart.percentages (items.map Item.magnitude)).length = items.length := by
  rw [Chart.percentages, List.length_map, List.length_map]

end Drawing

namespace Layout

open Drawing Figure

variable (items : List Item) (fill : Nat → String)

lemma drawsEach_rows (layout : ListLayout) :
    (list layout).DrawsEach (rows items layout) items := by
  refine ⟨?_, by simp⟩
  cases layout with
  | horizontalArrow => exact forall₂_mapIdx (shownAt?_arrowNode items.length) items
  | grid compact =>
    refine forall₂_map_self (fun item => ?_) items
    cases compact <;> exact shownAt?_card (by rfl) item
  | doneList => exact forall₂_map_self (R := (list .doneList).Shows) shownAt?_checkRow items

lemma drawsEach_steps (layout : SequenceLayout) :
    (sequence layout).DrawsEach (steps items layout) items := by
  refine ⟨?_, by simp⟩
  cases layout <;>
    exact forall₂_mapIdx
      (shownAt?_step (by decide) (by decide) (by decide) (by decide) (by decide) (by decide)
        (by decide) items.length) items

lemma drawsEach_tree (layout : HierarchyLayout) :
    (hierarchy layout).DrawsEach (tree items layout) items := by
  refine ⟨?_, by simp⟩
  show List.Forall₂ _ items (branches 0 items)
  rw [branches_eq_map]
  exact forall₂_map_self (R := (hierarchy layout).Shows) (shownAt?_branch 0) items

lemma drawsEach_chart (layout : ChartLayout) :
    (chart layout).DrawsEach (Drawing.chart items fill layout) items := by
  cases layout with
  | pie =>
    have hshows : ∀ item wedge, (chart .pie).Shows item
        (legendEntry (Chart.total (items.map Item.magnitude)) item wedge) :=
      fun item wedge => ⟨_, shownAt?_legendEntry _ item wedge⟩
    refine ⟨?_, fun _ => ?_⟩
    · show List.Forall₂ _ items (_ ++ [])
      rw [List.append_nil]
      exact forall₂_zipWith hshows (length_wedges items fill)
    · show ((Chart.wedges items fill).map pieSlice ++ []).length = _
      rw [List.append_nil, List.length_map, length_wedges]
  | bar => exact ⟨forall₂_zipWith shownAt?_barRow (length_percentages items), by simp⟩
  | column =>
    refine ⟨?_, by simp⟩
    show List.Forall₂ _ items (_ ++ [])
    rw [List.append_nil]
    exact forall₂_zipWith shownAt?_column (length_percentages items)

end Layout

end Placard
