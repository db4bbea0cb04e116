import Mathlib.Data.List.Basic
import Placard.Drawing.Board
import Placard.Proofs.Figure.Search
import Placard.Proofs.Markup.Plain
import Placard.Proofs.Text.Words

set_option relaxedAutoImplicit false
set_option autoImplicit false

/-!
# The parts of a drawing

All figures that a layout draws are *ordinary*: each class name is one word, none is the one of the
sign that stands in for an icon, and a sign has no meaning in markup. The figures of icons are the
one exception, and only the cards of a grid show icons.

## Main definitions

* `Placard.Figure.Every`: a property of a figure and of all figures inside it.
* `Placard.Figure.Ordinary`: the figures that all layouts are made of.
* `Placard.Figure.IsPartOf`: the figures that items are drawn with.

## Main results

* `Placard.Layout.every_draw`: the figures of a layout are ordinary or those of icons.
* `Placard.Layout.every_ordinary_draw`: without a grid they are ordinary.
* `Placard.Document.every_draw`: a property of these figures is one of the whole drawing.
* `Placard.Figure.of_mem_findAll`: what is found in a figure has its property.
-/

namespace Placard

/-- The sign that a shape shows, if it is one. -/
def Shape.sign? : Shape → Option String
  | .glyph sign => some sign
  | _ => none

namespace Figure

mutual

/-- Whether a figure and all figures inside it have a property. -/
def Every (p : Figure → Prop) : Figure → Prop
  | ⟨shape, classes, text, styles, children⟩ =>
    p ⟨shape, classes, text, styles, children⟩ ∧ EveryIn p children

/-- Whether figures and all figures inside them have a property. -/
def EveryIn (p : Figure → Prop) : List Figure → Prop
  | [] => True
  | f :: fs => Every p f ∧ EveryIn p fs

end

section Every

variable {α β : Type} {p q : Figure → Prop} {f g : Figure} {fs gs : List Figure} {name : String}

lemma every_iff : f.Every p ↔ p f ∧ EveryIn p f.children := by
  obtain ⟨shape, classes, text, styles, children⟩ := f
  exact Iff.rfl

lemma everyIn_iff : EveryIn p fs ↔ ∀ f ∈ fs, f.Every p := by
  induction fs with
  | nil => simp [EveryIn]
  | cons f fs ih => rw [EveryIn, ih, List.forall_mem_cons]

mutual

lemma Every.imp (hpq : ∀ g, p g → q g) (f : Figure) (h : f.Every p) : f.Every q := by
  match f with
  | ⟨shape, classes, text, styles, children⟩ => exact ⟨hpq _ h.1, EveryIn.imp hpq children h.2⟩

lemma EveryIn.imp (hpq : ∀ g, p g → q g) (fs : List Figure) (h : EveryIn p fs) :
    EveryIn q fs := by
  match fs with
  | [] => trivial
  | f :: fs => exact ⟨Every.imp hpq f h.1, EveryIn.imp hpq fs h.2⟩

end

lemma everyIn_append (hfs : EveryIn p fs) (hgs : EveryIn p gs) : EveryIn p (fs ++ gs) := by
  rw [everyIn_iff, List.forall_mem_append]
  exact ⟨everyIn_iff.mp hfs, everyIn_iff.mp hgs⟩

lemma everyIn_map {draw : α → Figure} {as : List α} (h : ∀ a ∈ as, (draw a).Every p) :
    EveryIn p (as.map draw) := by
  rw [everyIn_iff, List.forall_mem_map]
  exact h

lemma everyIn_toList {draw : α → Figure} {a : Option α} (h : ∀ b, a = some b → (draw b).Every p) :
    EveryIn p (a.map draw).toList := by
  cases a with
  | none => trivial
  | some a => exact ⟨h a rfl, trivial⟩

lemma everyIn_mapIdx {draw : Nat → α → Figure} {as : List α}
    (h : ∀ i, ∀ a ∈ as, (draw i a).Every p) : EveryIn p (as.mapIdx draw) := by
  rw [everyIn_iff]
  intro f hf
  obtain ⟨i, hi, rfl⟩ := List.mem_mapIdx.mp hf
  exact h i as[i] (List.getElem_mem hi)

lemma everyIn_zipWith {draw : α → β → Figure} {as : List α} (h : ∀ a ∈ as, ∀ b, (draw a b).Every p)
    (bs : List β) : EveryIn p (List.zipWith draw as bs) := by
  rw [← List.map_uncurry_zip_eq_zipWith]
  refine everyIn_map ?_
  rintro ⟨a, b⟩ hab
  exact h a (List.of_mem_zip hab).1 b

/-! ### Search -/

mutual

/-- What is found carries the name, and has the property of all figures searched. -/
lemma of_mem_findAll (f : Figure) (h : f.Every p) (hg : g ∈ f.findAll name) :
    p g ∧ g.hasClass name = true := by
  match f with
  | ⟨shape, classes, text, styles, children⟩ =>
    rw [findAll] at hg
    split at hg
    · next hname =>
      rcases List.mem_cons.mp hg with rfl | hg
      · exact ⟨h.1, hname⟩
      · exact of_mem_findAllIn children h.2 hg
    · exact of_mem_findAllIn children h.2 hg

lemma of_mem_findAllIn (fs : List Figure) (h : EveryIn p fs) (hg : g ∈ findAllIn name fs) :
    p g ∧ g.hasClass name = true := by
  match fs with
  | [] => cases hg
  | f :: fs =>
    rw [findAllIn, List.mem_append] at hg
    rcases hg with hg | hg
    · exact of_mem_findAll f h.1 hg
    · exact of_mem_findAllIn fs h.2 hg

end

end Every

/-! ## Ordinary figures -/

/-- The class name of the sign that stands in for an icon. -/
def fallbackClass : String := "icon-fallback"

/-- A class name with a given start is not one with another start. -/
lemma append_ne_of_head? {start rest other : String}
    (h : start.toList.head? ≠ other.toList.head?) (hne : start.toList ≠ []) :
    start ++ rest ≠ other := by
  rintro rfl
  rw [String.toList_append, List.head?_append_of_ne_nil _ hne] at h
  exact h rfl

/-- Whether a text is the class name of an ordinary figure. -/
def isPlainClass (s : String) : Bool := Text.isWord s.toList && s != fallbackClass

/-- Whether a figure is one of those that all layouts are made of. -/
structure Ordinary (f : Figure) : Prop where
  /-- Its class names are words, and not the name of the sign that stands in for an icon. -/
  classes : f.classes.all isPlainClass = true
  /-- If it is a sign then the sign has no meaning in markup. -/
  sign : ∀ s, f.shape.sign? = some s → Markup.Plain s

/-- Whether a figure is one of those that items with the given icons are drawn with. -/
def IsPartOf (icons : List String) (f : Figure) : Prop :=
  f.Ordinary ∨ ∃ reference ∈ icons, f = Icon.figure reference

section Ordinary

variable {name : String} {fs : List Figure} {icons : List String}

lemma ordinary_of_classes {f : Figure} (hclasses : f.classes.all isPlainClass = true)
    (hshape : f.shape.sign? = none) : f.Ordinary :=
  ⟨hclasses, fun s hs => by rw [hshape] at hs; cases hs⟩

lemma every_block (hname : isPlainClass name = true) (hfs : EveryIn Ordinary fs) :
    (block name fs).Every Ordinary :=
  ⟨ordinary_of_classes (by simpa [block] using hname) rfl, hfs⟩

lemma every_textBlock (hname : isPlainClass name = true) (text : String) :
    (textBlock name text).Every Ordinary :=
  ⟨ordinary_of_classes (by simpa [textBlock] using hname) rfl, trivial⟩

lemma every_inlineText (hname : isPlainClass name = true) (text : String) :
    (inlineText name text).Every Ordinary :=
  ⟨ordinary_of_classes (by simpa [inlineText] using hname) rfl, trivial⟩

lemma every_sign {s : String} (hname : isPlainClass name = true) (hs : Markup.Plain s) :
    (sign name s).Every Ordinary := by
  refine ⟨⟨by simpa [sign] using hname, fun s' hs' => ?_⟩, trivial⟩
  obtain rfl := Option.some.inj hs'
  exact hs

lemma every_isPartOf {f : Figure} (h : f.Every Ordinary) : f.Every (IsPartOf icons) :=
  Every.imp (fun _ => Or.inl) f h

lemma everyIn_isPartOf (h : EveryIn Ordinary fs) : EveryIn (IsPartOf icons) fs :=
  EveryIn.imp (fun _ => Or.inl) fs h

end Ordinary

end Figure

namespace Drawing

open Figure

lemma everyIn_optionalText {name : String} (hname : isPlainClass name = true)
    (text : Option String) : EveryIn Ordinary (optionalText name text) :=
  everyIn_toList fun text _ => every_textBlock hname text

/-! ### Plain lists -/

lemma every_icon {icons : List String} {reference : String} (h : reference ∈ icons) :
    (Icon.figure reference).Every (IsPartOf icons) := by
  refine every_iff.mpr ⟨.inr ⟨reference, h, rfl⟩, ?_⟩
  rw [Icon.figure]
  split <;> trivial

lemma every_arrowNode (count index : Nat) (item : Item) :
    (arrowNode count index item).Every Ordinary := by
  refine every_block (by decide) (everyIn_append ?_ ?_)
  · exact ⟨every_textBlock (by decide) _, every_block (by decide)
      ⟨every_textBlock (by decide) _, everyIn_optionalText (by decide) _⟩, trivial⟩
  · split
    · exact ⟨every_sign (by decide) (plain_of_all rfl), trivial⟩
    · trivial

/-- The parts of a card are ordinary but for its icon. -/
lemma every_card {name : String} (hname : isPlainClass name = true) (item : Item) :
    (card name item).Every (IsPartOf item.icon.toList) := by
  have hicon : ∀ icon, item.icon = some icon →
      (block "card-icon" [Icon.figure icon]).Every (IsPartOf item.icon.toList) := by
    intro icon hicon
    refine ⟨.inl (ordinary_of_classes rfl rfl), every_icon ?_, trivial⟩
    rw [hicon]
    exact List.mem_singleton_self icon
  refine ⟨.inl (ordinary_of_classes (by simpa [block] using hname) rfl), ?_⟩
  refine everyIn_append (everyIn_append (everyIn_append (everyIn_toList hicon) ?_) ?_) ?_
  · exact everyIn_isPartOf ⟨every_textBlock (by decide) _, trivial⟩
  · exact everyIn_isPartOf (everyIn_optionalText (by decide) _)
  · exact everyIn_isPartOf (everyIn_optionalText (by decide) _)

lemma every_checkRow (item : Item) : (checkRow item).Every Ordinary :=
  every_block (by decide) ⟨every_sign (by decide) (plain_of_all rfl), every_block (by decide)
    ⟨every_textBlock (by decide) _, everyIn_optionalText (by decide) _⟩, trivial⟩

/-! ### Steps -/

/-- Whether all class names of a kind of sequence are plain. -/
structure StepStyle.PlainClasses (style : StepStyle) : Prop where
  /-- The name of the whole. -/
  container : isPlainClass style.container = true
  /-- The name of a step. -/
  step : isPlainClass style.step = true
  /-- The start of the names of its parts. -/
  family : Text.isWord style.family.toList = true
  /-- That is not the start of the name of the sign that stands in for an icon. -/
  head : style.family.toList.head? ≠ fallbackClass.toList.head?

lemma plainClasses_ofLayout (layout : SequenceLayout) :
    (StepStyle.ofLayout layout).PlainClasses := by
  cases layout <;> exact ⟨by decide, by decide, by decide, by decide⟩

/-- The name of a part of a step is plain. -/
lemma StepStyle.PlainClasses.part {style : StepStyle} (h : style.PlainClasses) {name : String}
    (hname : Text.isWord name.toList = true) : isPlainClass (style.part name) = true := by
  have hdash : Text.isWord "-".toList = true := by decide
  have hword : Text.isWord (style.part name).toList = true := by
    rw [StepStyle.part, String.toList_append, String.toList_append]
    refine Text.isWord_append (List.forall_mem_append.mpr ⟨?_, ?_⟩) hname
    · exact (Text.isWord_iff.mp h.family).2
    · exact (Text.isWord_iff.mp hdash).2
  have hne : style.part name ≠ fallbackClass := by
    rw [StepStyle.part, String.append_assoc]
    exact append_ne_of_head? h.head (Text.isWord_iff.mp h.family).1
  rw [isPlainClass, hword, Bool.true_and, bne_iff_ne]
  exact hne

lemma isPlainClass_side (index : Nat) : isPlainClass (side index) = true := by
  rw [side]
  split <;> decide

lemma every_step {style : StepStyle} (h : style.PlainClasses) (count index : Nat) (item : Item) :
    (step style count index item).Every Ordinary := by
  have hclasses : (style.step :: if style.alternating then [side index] else []).all
      isPlainClass = true := by
    rw [List.all_cons, h.step, Bool.true_and]
    split
    · rw [List.all_cons, isPlainClass_side]
      rfl
    · rfl
  have hmarker : (stepMarker style index).Every Ordinary := by
    rw [stepMarker]
    split
    · exact every_block (h.part (by decide)) trivial
    · exact every_textBlock (h.part (by decide)) _
  have htexts : EveryIn Ordinary (stepTexts style item) := by
    refine everyIn_append ⟨every_textBlock (h.part (by decide)) _,
      everyIn_optionalText (h.part (by decide)) _⟩ ?_
    split
    · exact ⟨every_block (by decide) trivial, trivial⟩
    · trivial
  have hshown : EveryIn Ordinary (if style.boxed then
      [.block (style.part "content") (stepTexts style item)] else stepTexts style item) := by
    split
    · exact ⟨every_block (h.part (by decide)) htexts, trivial⟩
    · exact htexts
  refine ⟨ordinary_of_classes hclasses rfl, everyIn_append ⟨hmarker, hshown⟩ ?_⟩
  split
  · exact ⟨every_block (by decide) trivial, trivial⟩
  · trivial

lemma every_steps (items : List Item) (layout : SequenceLayout) :
    (steps items layout).Every Ordinary :=
  every_block (plainClasses_ofLayout layout).container
    (everyIn_mapIdx fun index item _ => every_step (plainClasses_ofLayout layout) _ index item)

/-! ### Trees -/

mutual

/-- The parts of a tree are ordinary, at every depth. -/
lemma every_branch (level : Nat) (item : Item) : (branch level item).Every Ordinary := by
  match item with
  | ⟨label, value, desc, icon, children⟩ =>
    have hbelow := everyIn_branchesBelow (level + 1) children
    have hgroup : EveryIn Ordinary (treeGroup (branchesBelow (level + 1) children)) := by
      rw [treeGroup]
      split
      · trivial
      · exact ⟨every_block (by decide) hbelow, trivial⟩
    exact ⟨ordinary_of_classes rfl rfl, every_block (by decide)
      ⟨every_textBlock (by decide) _, everyIn_optionalText (by decide) _⟩, hgroup⟩

lemma everyIn_branchesBelow (level : Nat) (children : Option (List Item)) :
    EveryIn Ordinary (branchesBelow level children) := by
  match children with
  | none => trivial
  | some items => exact everyIn_branches level items

lemma everyIn_branches (level : Nat) (items : List Item) :
    EveryIn Ordinary (branches level items) := by
  match items with
  | [] => trivial
  | item :: items => exact ⟨every_branch level item, everyIn_branches level items⟩

end

lemma every_tree (items : List Item) (layout : HierarchyLayout) :
    (tree items layout).Every Ordinary := by
  refine every_block ?_ (everyIn_branches 0 items)
  cases layout <;> decide

/-! ### Charts -/

lemma every_pieSlice (wedge : Wedge) : (pieSlice wedge).Every Ordinary :=
  ⟨ordinary_of_classes rfl rfl, trivial⟩

lemma every_legendEntry (total : Float) (item : Item) (wedge : Wedge) :
    (legendEntry total item wedge).Every Ordinary :=
  every_block (by decide)
    ⟨⟨ordinary_of_classes rfl rfl, trivial⟩, every_inlineText (by decide) _, trivial⟩

lemma every_barRow (item : Item) (percent : Float) : (barRow item percent).Every Ordinary :=
  every_block (by decide) ⟨every_textBlock (by decide) _, every_block (by decide)
    ⟨⟨ordinary_of_classes rfl rfl, trivial⟩, every_textBlock (by decide) _, trivial⟩, trivial⟩

lemma every_column (item : Item) (percent : Float) : (column item percent).Every Ordinary :=
  every_block (by decide)
    ⟨⟨ordinary_of_classes rfl rfl, every_textBlock (by decide) _, trivial⟩,
      every_textBlock (by decide) _, trivial⟩

lemma every_chart (items : List Item) (fill : Nat → String) (layout : ChartLayout) :
    (chart items fill layout).Every Ordinary := by
  cases layout with
  | pie =>
    have hslices : EveryIn Ordinary ((Chart.wedges items fill).map pieSlice) :=
      everyIn_map fun wedge _ => every_pieSlice wedge
    exact every_block (by decide) ⟨⟨ordinary_of_classes rfl rfl, hslices⟩,
      every_block (by decide) (everyIn_zipWith (fun item _ => every_legendEntry _ item) _), trivial⟩
  | bar => exact every_block (by decide) (everyIn_zipWith (fun item _ => every_barRow item) _)
  | column =>
    exact every_block (by decide)
      ⟨every_block (by decide) (everyIn_zipWith (fun item _ => every_column item) _), trivial⟩

/-! ### Panels -/

lemma every_bullet (item : Item) : (bullet item).Every Ordinary :=
  ⟨ordinary_of_classes rfl rfl, trivial⟩

lemma every_describedBullet (item : Item) : (describedBullet item).Every Ordinary :=
  ⟨ordinary_of_classes rfl rfl, everyIn_toList fun _ _ => every_inlineText (by decide) _⟩

lemma everyIn_bulletList {name : String} (hname : isPlainClass name = true)
    {entry : Item → Figure} (h : ∀ item, (entry item).Every Ordinary) (item : Item) :
    EveryIn Ordinary (bulletList name entry item) := by
  refine everyIn_toList fun children _ =>
    ⟨ordinary_of_classes ?_ rfl, everyIn_map fun item _ => h item⟩
  simpa using hname

lemma every_swotPlace {place : String × String} (hplace : isPlainClass place.2 = true)
    (item : Option Item) : (swotPlace place item).Every Ordinary := by
  refine ⟨ordinary_of_classes ?_ rfl, every_textBlock (by decide) _, ?_⟩
  · show (isPlainClass "swot-quadrant" && (isPlainClass place.2 && true)) = true
    rw [hplace]
    decide
  · cases item with
    | none => trivial
    | some item =>
      exact everyIn_append (everyIn_optionalText (by decide) _)
        (everyIn_bulletList (by decide) every_bullet item)

lemma every_comparePanel {name : String} (hname : isPlainClass name = true) (item : Item) :
    (comparePanel name item).Every Ordinary := by
  refine ⟨ordinary_of_classes ?_ rfl, every_textBlock (by decide) _, ?_⟩
  · show (isPlainClass "compare-side" && (isPlainClass name && true)) = true
    rw [hname]
    decide
  · exact everyIn_append (everyIn_optionalText (by decide) _)
      (everyIn_bulletList (by decide) every_describedBullet item)

lemma every_compare (items : List Item) (layout : CompareLayout) :
    (compare items layout).Every Ordinary := by
  cases layout with
  | swot =>
    have hplaces : ∀ place ∈ swotPlaces, isPlainClass place.2 = true := by decide
    exact every_block (by decide)
      (everyIn_mapIdx fun index place hplace =>
        every_swotPlace (hplaces place hplace) items[index]?)
  | binary =>
    have hsides : ∀ name ∈ ["compare-left", "compare-right"], isPlainClass name = true := by decide
    exact every_block (by decide)
      (everyIn_zipWith (fun name hname => every_comparePanel (hsides name hname)) items)

lemma every_quadrant (items : List Item) : (quadrant items).Every Ordinary := by
  have hcells : ∀ index ∈ List.range quadrantCells,
      isPlainClass ("quadrant-" ++ toString (index + 1)) = true := by decide
  refine every_block (by decide) (everyIn_map fun index hindex => ⟨ordinary_of_classes ?_ rfl, ?_⟩)
  · show (isPlainClass "quadrant-cell" &&
      (isPlainClass ("quadrant-" ++ toString (index + 1)) && true)) = true
    rw [hcells index hindex]
    decide
  · cases items[index]? with
    | none => trivial
    | some item =>
      exact ⟨every_textBlock (by decide) _, everyIn_append (everyIn_optionalText (by decide) _)
        (everyIn_bulletList (by decide) every_bullet item)⟩

end Drawing

/-! ### Layouts -/

namespace Layout

open Drawing Figure

/-- Whether a layout is a grid of cards. -/
def IsGrid (layout : Layout) : Prop := ∃ compact, layout = .list (.grid compact)

/-- **Without a grid the figures of a layout are ordinary.** -/
theorem every_ordinary_draw {layout : Layout} (h : ¬ layout.IsGrid) (items : List Item)
    (fill : Nat → String) : (layout.draw items fill).Every Ordinary := by
  cases layout with
  | list layout =>
    cases layout with
    | horizontalArrow =>
      exact every_block (by decide)
        (everyIn_mapIdx fun index item _ => every_arrowNode items.length index item)
    | grid compact => exact absurd ⟨compact, rfl⟩ h
    | doneList => exact every_block (by decide) (everyIn_map fun item _ => every_checkRow item)
  | sequence layout => exact every_steps items layout
  | hierarchy layout => exact every_tree items layout
  | chart layout => exact every_chart items fill layout
  | compare layout => exact every_compare items layout
  | quadrant => exact every_quadrant items

/-- The name of a card is plain. -/
lemma isPlainClass_card (compact : Bool) :
    isPlainClass (if compact then "compact-card" else "badge-card") = true := by
  cases compact <;> decide

/-- **The figures of a layout are ordinary or those of icons of its items.** -/
theorem every_draw (layout : Layout) (items : List Item) (fill : Nat → String) :
    (layout.draw items fill).Every (IsPartOf (items.filterMap (·.icon))) := by
  by_cases h : layout.IsGrid
  · obtain ⟨compact, rfl⟩ := h
    refine ⟨.inl (ordinary_of_classes rfl rfl), everyIn_map fun item hitem => ?_⟩
    refine Every.imp ?_ _ (every_card (isPlainClass_card compact) item)
    rintro g (hordinary | ⟨reference, hreference, rfl⟩)
    · exact .inl hordinary
    · refine .inr ⟨reference, List.mem_filterMap.mpr ⟨item, hitem, ?_⟩, rfl⟩
      exact Option.mem_toList.mp hreference
  · exact every_isPartOf (every_ordinary_draw h items fill)

end Layout

/-- A property of the parts of a drawing and of the two boxes around them is one of all its
figures. -/
theorem Document.every_draw {p : Figure → Prop} {d : Document} {options : DrawOptions}
    {sheet : Stylesheet} (hpart : ∀ g, g.IsPartOf (d.items.filterMap (·.icon)) → p g)
    (hcontent : p (d.content (sheet.pieColor options.mode))) (hdraw : p (d.draw options sheet)) :
    (d.draw options sheet).Every p := by
  have htitle : Figure.EveryIn p (Drawing.optionalText "title" d.title) :=
    Figure.EveryIn.imp (fun g hg => hpart g (.inl hg)) _
      (Drawing.everyIn_optionalText (by decide) d.title)
  have hlayout := Figure.Every.imp hpart _
    (Layout.every_draw (Layout.ofTemplate d.template) d.items (sheet.pieColor options.mode))
  refine Figure.every_iff.mpr ⟨hdraw, Figure.everyIn_append htitle ⟨?_, trivial⟩⟩
  exact Figure.every_iff.mpr ⟨hcontent, hlayout, trivial⟩

end Placard
