import Placard.Proofs.Drawing.Parts
import Placard.Proofs.Drawing.Places

set_option relaxedAutoImplicit false
set_option autoImplicit false

/-!
# Entries at their positions

A chain of arrows and the sequences draw one entry behind the other. What an entry shows depends on
its item and on its position: its number, its side, its index, and whether something joins it to the
next one. This file says so for each of these layouts, and compares the entries with those of a
longer list.

## Main definitions

* `Placard.OrderedLayout`: the layouts that draw items one behind the other.
* `Placard.OrderedLayout.parts`: the figures that an entry is made of.
* `Placard.OrderedLayout.EntryAt`: what an entry shows at its position.
* `Placard.OrderedLayout.Positions`: the entries of a drawing show the items, in order.

## Main results

* `Placard.OrderedLayout.findAll_entry`: what is found in an entry.
* `Placard.OrderedLayout.entryAt_entry`: an entry shows its item at its position.
* `Placard.OrderedLayout.entry_succ`: only the last entry changes if the list gets longer.
* `Placard.OrderedLayout.positions_draw`: all this for the drawing of a list of items.
-/

namespace Placard

/-- The layouts that draw items one behind the other. -/
inductive OrderedLayout where
  /-- Nodes joined by arrows. -/
  | arrows
  /-- Steps joined by lines. -/
  | steps
  /-- Entries on both sides of a line. -/
  | timeline
  /-- Steps that change sides. -/
  | snake
  /-- Rising steps. -/
  | ascending
  /-- Underlined steps that change sides. -/
  | zigzag
deriving DecidableEq, Repr

namespace OrderedLayout

open Drawing Figure

/-- The layout. -/
def layout : OrderedLayout → Layout
  | .arrows => .list .horizontalArrow
  | .steps => .sequence .steps
  | .timeline => .sequence .timeline
  | .snake => .sequence .snake
  | .ascending => .sequence .ascending
  | .zigzag => .sequence .zigzag

/-- The class name of the labels. -/
def labelClass (l : OrderedLayout) : String := l.layout.labelClass

/-- The class name of the descriptions. -/
def descClass : OrderedLayout → String
  | .arrows => "item-desc"
  | .steps => "step-desc"
  | .timeline => "timeline-desc"
  | .snake => "snake-desc"
  | .ascending => "ascending-desc"
  | .zigzag => "zigzag-desc"

/-- The class name of the numbers. -/
def numberClass : OrderedLayout → String
  | .arrows => "step-number"
  | .steps => "step-num"
  | .timeline => "timeline-num"
  | .snake => "snake-num"
  | .ascending => "ascending-num"
  | .zigzag => "zigzag-num"

/-- Whether the entries change sides. -/
def alternates : OrderedLayout → Bool
  | .timeline | .snake | .zigzag => true
  | _ => false

/-- What joins an entry to the next one, if anything does. -/
def connector? : OrderedLayout → Option Figure
  | .arrows => some (.sign "arrow" "→")
  | .steps => some (.block "step-line" [])
  | _ => none

/-- The connector of the entry at an index among `count`: the last one has none. -/
def connectorAt (l : OrderedLayout) (count i : Nat) : List Figure :=
  if i + 1 < count then l.connector?.toList else []

/-- The entry for an item at an index among `count`. -/
def entry (l : OrderedLayout) (count i : Nat) (item : Item) : Figure :=
  match l with
  | .arrows => arrowNode count i item
  | .steps => step (.ofLayout .steps) count i item
  | .timeline => step (.ofLayout .timeline) count i item
  | .snake => step (.ofLayout .snake) count i item
  | .ascending => step (.ofLayout .ascending) count i item
  | .zigzag => step (.ofLayout .zigzag) count i item

/-- The figure that marks a position: a number, or a dot. -/
def marker (l : OrderedLayout) (i : Nat) : Figure :=
  if l = .timeline then .block "timeline-dot" [] else .textBlock l.numberClass (toString (i + 1))

/-- The figures that show an item. -/
def shown (l : OrderedLayout) (item : Item) : List Figure :=
  .textBlock l.labelClass item.label :: optionalText l.descClass item.desc ++
    if l = .zigzag then [.block "underline" []] else []

/-- The figures that an entry is made of, but for the boxes around them. -/
def parts (l : OrderedLayout) (count i : Nat) (item : Item) : List Figure :=
  l.marker i :: l.shown item ++ l.connectorAt count i

/-- The class name of the entries. -/
def entryClass : OrderedLayout → String
  | .arrows => "arrow-item"
  | .steps => "step"
  | .timeline => "timeline-entry"
  | .snake => "snake-step"
  | .ascending => "ascending-step"
  | .zigzag => "zigzag-step"

/-- The class name of the box around what shows the item, if there is one. -/
def boxClass? : OrderedLayout → Option String
  | .arrows => some "item-content"
  | .steps => some "step-content"
  | .timeline => some "timeline-content"
  | .snake => some "snake-content"
  | .ascending => none
  | .zigzag => some "zigzag-content"

/-- The class names of entries, of their sides and of the boxes in them. -/
def frameClasses (l : OrderedLayout) : List String :=
  [l.entryClass, "left", "right"] ++ l.boxClass?.toList

/-- What an entry shows for its item, at an index among `count`. -/
structure EntryAt (l : OrderedLayout) (count i : Nat) (item : Item) (f : Figure) : Prop where
  /-- The label. -/
  label : (f.findAll l.labelClass).map (·.text) = [some item.label]
  /-- The description, if there is one. -/
  desc : (f.findAll l.descClass).map (·.text) = item.desc.toList.map some
  /-- The number, counted from one. -/
  number : (f.findAll l.numberClass).map (·.text) =
    if l = .timeline then [] else [some (toString (i + 1))]
  /-- A dot in place of the number. -/
  dot : (f.findAll "timeline-dot").length = if l = .timeline then 1 else 0
  /-- The left side. -/
  left : f.hasClass "left" = true ↔ l.alternates = true ∧ i % 2 = 0
  /-- The right side. -/
  right : f.hasClass "right" = true ↔ l.alternates = true ∧ i % 2 = 1
  /-- The index. -/
  index : f.style? "--step-index" = if l = .ascending then some (.index i) else none
  /-- A line under the texts. -/
  underline : (f.findAll "underline").length = if l = .zigzag then 1 else 0
  /-- An arrow to the next entry. -/
  arrow : (f.findAll "arrow").length = if l = .arrows ∧ i + 1 < count then 1 else 0
  /-- A line to the next entry. -/
  line : (f.findAll "step-line").length = if l = .steps ∧ i + 1 < count then 1 else 0

/-- Whether the entries of a drawing show the items, in order and at their positions. -/
structure Positions (l : OrderedLayout) (items : List Item) (board : Figure) : Prop where
  /-- There is one entry for each item. -/
  length : board.children.length = items.length
  /-- It shows the item at its position. -/
  entries : ∀ (i : Nat) (item : Item), items[i]? = some item →
    ∃ f, board.children[i]? = some f ∧ l.EntryAt items.length i item f
  /-- A chain has one arrow less than items. -/
  arrows : (board.findAll "arrow").length = if l = .arrows then items.length - 1 else 0
  /-- Simple steps have one line less than items. -/
  lines : (board.findAll "step-line").length = if l = .steps then items.length - 1 else 0

/-- An entry, joined to one behind it if the layout joins entries. -/
def joined (l : OrderedLayout) (f : Figure) : Figure :=
  { f with children := f.children ++ l.connector?.toList }

/-! ## Entries -/

section Entry

variable (l : OrderedLayout) (count i : Nat) (item : Item)

/-- An entry holds its parts, those that show the item in a box of their own if there is one. -/
lemma children_entry : (l.entry count i item).children =
    l.marker i :: (l.boxClass?.elim (l.shown item) fun name => [.block name (l.shown item)]) ++
      l.connectorAt count i := by
  cases l <;> simp [entry, arrowNode, arrowSign, step, stepMarker, stepTexts, StepStyle.ofLayout,
    StepStyle.part, block, marker, boxClass?, shown, connectorAt, connector?, labelClass, layout,
    Layout.labelClass, descClass, numberClass]

lemma classes_entry :
    (l.entry count i item).classes = l.entryClass :: if l.alternates then [side i] else [] := by
  cases l <;> rfl

lemma styles_entry : (l.entry count i item).styles =
    if l = .ascending then [⟨"--step-index", .index i⟩] else [] := by
  cases l <;> rfl

variable {l count i item} {name : String}

lemma side_eq_or (i : Nat) : side i = "left" ∨ side i = "right" := by
  rw [side]
  split
  · exact .inl rfl
  · exact .inr rfl

lemma not_hasClass_entry (h : name ∉ l.frameClasses) :
    (l.entry count i item).hasClass name = false := by
  rw [Bool.eq_false_iff, Ne, hasClass, List.contains_iff_mem, classes_entry, List.mem_cons]
  rintro (rfl | hside)
  · exact h List.mem_cons_self
  · split at hside
    · obtain rfl := List.mem_singleton.mp hside
      refine h (List.mem_append_left _ (List.mem_cons_of_mem _ ?_))
      rcases side_eq_or i with hleft | hright
      · rw [hleft]
        exact List.mem_cons_self
      · rw [hright]
        exact List.mem_cons_of_mem _ List.mem_cons_self
    · cases hside

/-- The box around what shows the item is not found. -/
lemma findAllIn_box (h : name ∉ l.frameClasses) (fs : List Figure) :
    findAllIn name (l.boxClass?.elim fs fun box => [.block box fs]) = findAllIn name fs := by
  cases hbox : l.boxClass? with
  | none => rfl
  | some box =>
    have hne : name ≠ box := by
      rintro rfl
      exact h (List.mem_append_right _ (Option.mem_toList.mpr hbox))
    have hnot : (block box fs).hasClass name = false := by
      rw [Bool.eq_false_iff, Ne, hasClass, List.contains_iff_mem, block]
      exact fun hmem => hne (List.mem_singleton.mp hmem)
    rw [Option.elim_some, findAllIn, findAll_of_not_hasClass hnot, findAllIn, List.append_nil]
    rfl

lemma children_connector {f : Figure} (h : l.connector? = some f) : f.children = [] := by
  cases l <;> cases h <;> rfl

/-- The parts of an entry have nothing inside. -/
lemma children_of_mem_parts {f : Figure} (h : f ∈ l.parts count i item) : f.children = [] := by
  rw [parts, List.mem_append, List.mem_cons, shown, List.cons_append, List.mem_cons,
    List.mem_append] at h
  rcases h with (rfl | rfl | hdesc | hunderline) | hconnector
  · rw [marker]
    split <;> rfl
  · rfl
  · rw [optionalText, Option.mem_toList, Option.map_eq_some_iff] at hdesc
    obtain ⟨text, -, rfl⟩ := hdesc
    rfl
  · split at hunderline
    · obtain rfl := List.mem_singleton.mp hunderline
      rfl
    · cases hunderline
  · rw [connectorAt] at hconnector
    split at hconnector
    · exact children_connector (Option.mem_toList.mp hconnector)
    · cases hconnector

/-- **What is found in an entry** are those of its parts that carry the name. -/
theorem findAll_entry (h : name ∉ l.frameClasses) :
    (l.entry count i item).findAll name = (l.parts count i item).filter (·.hasClass name) := by
  rw [findAll_of_not_hasClass (not_hasClass_entry h), children_entry, findAllIn_append, findAllIn,
    findAllIn_box h, ← findAllIn, ← findAllIn_append]
  exact findAllIn_of_leaves fun f => children_of_mem_parts

/-- The parts with a class name, one kind after the other. -/
lemma filter_parts (name : String) : (l.parts count i item).filter (·.hasClass name) =
    (if (l.marker i).hasClass name then [l.marker i] else []) ++
      (if l.labelClass = name then [.textBlock l.labelClass item.label] else []) ++
      (if l.descClass = name then optionalText l.descClass item.desc else []) ++
      (if l = .zigzag ∧ "underline" = name then [.block "underline" []] else []) ++
      if i + 1 < count then l.connector?.toList.filter (·.hasClass name) else [] := by
  have hlabel : (textBlock l.labelClass item.label).hasClass name = true ↔ l.labelClass = name := by
    rw [hasClass, List.contains_iff_mem, textBlock, List.mem_singleton, eq_comm]
  have hunderline : (if l = .zigzag then [block "underline" []] else []).filter
      (·.hasClass name) =
        if l = .zigzag ∧ "underline" = name then [block "underline" []] else [] := by
    by_cases hname : "underline" = name
    · subst hname
      split <;> simp_all [hasClass, block]
    · split <;> simp_all [hasClass, block, eq_comm]
  have hconnector : (l.connectorAt count i).filter (·.hasClass name) =
      if i + 1 < count then l.connector?.toList.filter (·.hasClass name) else [] := by
    rw [connectorAt]
    split <;> rfl
  rw [parts, shown, List.filter_append, hconnector, List.filter_cons, List.cons_append,
    List.filter_cons, List.filter_append, childrenWithClass_texts, hunderline]
  simp only [hlabel]
  split <;> split <;> simp

/-- **An entry shows its item at its position.** -/
theorem entryAt_entry (l : OrderedLayout) (count i : Nat) (item : Item) :
    l.EntryAt count i item (l.entry count i item) := by
  have htexts : ∀ name, (optionalText name item.desc).map (·.text) = item.desc.toList.map some := by
    intro name
    cases item.desc <;> rfl
  refine ⟨?label, ?desc, ?number, ?dot, ?left, ?right, ?index, ?underline, ?arrow, ?line⟩
  case label | desc | number | dot | underline =>
    rw [findAll_entry (by cases l <;> decide), filter_parts]
    cases l <;> simp [marker, hasClass, block, textBlock, labelClass, layout, Layout.labelClass,
      descClass, numberClass, connector?, sign, htexts]
  case arrow | line =>
    rw [findAll_entry (by cases l <;> decide), filter_parts]
    cases l <;> simp [marker, hasClass, block, textBlock, labelClass, layout, Layout.labelClass,
      descClass, numberClass, connector?, sign, apply_ite List.length]
  case left | right =>
    rw [hasClass, List.contains_iff_mem, classes_entry]
    cases l <;> simp [entryClass, alternates, side]
  case index =>
    rw [style?, styles_entry]
    cases l <;> rfl

/-- **Only the last entry changes if the list gets longer by one**: it is joined to the new one. -/
theorem entry_succ (h : i < count) : l.entry (count + 1) i item =
    if i + 1 = count then l.joined (l.entry count i item) else l.entry count i item := by
  have hconnector : l.connectorAt (count + 1) i =
      l.connectorAt count i ++ if i + 1 = count then l.connector?.toList else [] := by
    rw [connectorAt, connectorAt, if_pos (by omega)]
    by_cases hlast : i + 1 = count
    · rw [if_pos hlast, if_neg (by omega), List.nil_append]
    · rw [if_neg hlast, if_pos (by omega), List.append_nil]
  have hchildren : (l.entry (count + 1) i item).children = (l.entry count i item).children ++
      if i + 1 = count then l.connector?.toList else [] := by
    rw [children_entry, children_entry, hconnector, List.append_assoc]
  have hothers : l.entry (count + 1) i item =
      { l.entry count i item with children := (l.entry (count + 1) i item).children } := by
    cases l <;> rfl
  rw [hothers, hchildren]
  split
  · rfl
  · rw [List.append_nil]
    cases l.entry count i item
    rfl

end Entry

/-! ## Drawings -/

section Board

variable {l : OrderedLayout} {items : List Item} {name : String}

/-- If all entries but the last have a figure each, then there is one less than entries. -/
lemma length_findAllIn_mapIdx {draw : Nat → Item → Figure}
    (h : ∀ i item, ((draw i item).findAll name).length = if i + 1 < items.length then 1 else 0) :
    (findAllIn name (items.mapIdx draw)).length = items.length - 1 := by
  induction items generalizing draw with
  | nil => rfl
  | cons item items ih =>
    have htail : ∀ i item, ((draw (i + 1) item).findAll name).length =
        if i + 1 < items.length then 1 else 0 := by
      intro i item
      rw [h]
      simp only [List.length_cons, Nat.add_lt_add_iff_right]
    rw [List.mapIdx_cons, findAllIn, List.length_append, h, ih htail, List.length_cons]
    split <;> omega

lemma children_draw (l : OrderedLayout) (items : List Item) (fill : Nat → String) :
    (l.layout.draw items fill).children = items.mapIdx (l.entry items.length) := by
  cases l <;> rfl

/-- The connectors found in a drawing are those of its entries. -/
lemma length_findAll_draw (fill : Nat → String) (l' : OrderedLayout)
    (hboard : (l.layout.draw items fill).hasClass name = false)
    (hentry : ∀ i item, ((l.entry items.length i item).findAll name).length =
      if l = l' ∧ i + 1 < items.length then 1 else 0) :
    ((l.layout.draw items fill).findAll name).length = if l = l' then items.length - 1 else 0 := by
  rw [findAll_of_not_hasClass hboard, children_draw]
  split
  · next heq =>
    refine length_findAllIn_mapIdx fun i item => ?_
    rw [hentry]
    simp only [heq, true_and]
  · next hne =>
    rw [findAllIn_eq_nil, List.length_nil]
    intro f hf
    obtain ⟨i, hi, rfl⟩ := List.mem_mapIdx.mp hf
    rw [← List.length_eq_zero_iff, hentry, if_neg fun h => hne h.1]

lemma positions_of_draw (l : OrderedLayout) (items : List Item) (fill : Nat → String) :
    l.Positions items (l.layout.draw items fill) := by
  refine ⟨?_, fun i item hitem => ?_, ?_, ?_⟩
  · rw [children_draw, List.length_mapIdx]
  · refine ⟨_, ?_, entryAt_entry l items.length i item⟩
    rw [children_draw, List.getElem?_mapIdx, hitem]
    rfl
  · exact length_findAll_draw fill .arrows (by cases l <;> rfl) fun i item =>
      (entryAt_entry l items.length i item).arrow
  · exact length_findAll_draw fill .steps (by cases l <;> rfl) fun i item =>
      (entryAt_entry l items.length i item).line

/-- With one more item the others have the same entries, of which the last is joined to the new
one. -/
lemma getElem?_draw_append (fill : Nat → String) (added : Item) {i : Nat} {f : Figure}
    (h : (l.layout.draw items fill).children[i]? = some f) :
    (l.layout.draw (items ++ [added]) fill).children[i]? =
      some (if i + 1 = items.length then l.joined f else f) := by
  rw [children_draw, List.getElem?_mapIdx, Option.map_eq_some_iff] at h
  obtain ⟨item, hitem, rfl⟩ := h
  obtain ⟨hi, -⟩ := List.getElem?_eq_some_iff.mp hitem
  rw [children_draw, List.getElem?_mapIdx, List.getElem?_append_left hi, hitem, List.length_append,
    List.length_singleton, Option.map_some, entry_succ hi]

/-- **Entries stand at their positions.** A chain of arrows and the five sequences draw one entry
for each item, in order. An entry shows the label of its item, its description if there is one, and
its number counted from one, or a dot in a timeline. In a timeline, a snake and a zigzag the entries
stand on the left and on the right in turns, and in the others on no side; rising steps note their
index, and the steps of a zigzag are underlined. All entries but the last of a chain and of simple
steps are joined to the next one, and no others. If an item is added behind the others then no entry
changes but the last one, which is joined to the new one in a chain and in simple steps.

**Proof sketch.** An entry is made of a marker, of what shows its item and of its connector
(`children_entry`), and what is found in it are those of these parts that carry the name
(`findAll_entry`). Only the connector depends on the number of items (`entry_succ`). -/
theorem positions_draw (l : OrderedLayout) (items : List Item) (fill : Nat → String) :
    l.Positions items (l.layout.draw items fill) ∧
      ∀ (added : Item) (i : Nat) (f : Figure), (l.layout.draw items fill).children[i]? = some f →
        (l.layout.draw (items ++ [added]) fill).children[i]? =
          some (if i + 1 = items.length then l.joined f else f) :=
  ⟨positions_of_draw l items fill, fun added _ _ h => getElem?_draw_append fill added h⟩

end Board

end OrderedLayout

end Placard
