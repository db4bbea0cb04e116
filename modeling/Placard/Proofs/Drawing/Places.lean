import Placard.Proofs.Drawing.Entries
import Placard.Proofs.Lint.Findings

set_option relaxedAutoImplicit false
set_option autoImplicit false

/-!
# Items without a place

A SWOT analysis and a quadrant have four places, a comparison of two sides has two. Items fill them
in order, and an item without a place is not drawn at all. Lint says so exactly when that happens.
In all other layouts every item is drawn, and lint says nothing about their number.

## Main definitions

* `Placard.Figure.board?`: the figure of the layout in the drawing of a document.
* `Placard.Figure.ShowsItem`: what a place shows of its item.
* `Placard.Document.DrawsUpTo`: the items up to a limit are drawn, and lint reports the others.

## Main results

* `Placard.Document.draw_agrees_with_lint`: drawing and lint agree on the items that are drawn.
-/

namespace Placard

namespace Figure

/-- The figure of the layout in the drawing of a document: the first one in the last box. -/
def board? (f : Figure) : Option Figure := f.children.getLast?.bind (·.children.head?)

/-- The text of a figure and those of the figures directly inside it. -/
def texts (f : Figure) : List (Option String) := f.text :: f.children.map (·.text)

end Figure

/-- The class names of the parts of a place. -/
structure PlaceClasses where
  /-- The heading. -/
  header : String
  /-- The description. -/
  desc : String
  /-- The list with bullets. -/
  list : String
deriving DecidableEq, Repr

/-- Whether a place shows a heading, the description of its item if there is an item with one, and
bullets with the given texts if there is an item with a list of children, perhaps an empty one; and
nothing else. -/
structure Figure.ShowsItem (place : Figure) (names : PlaceClasses) (heading : Option String)
    (bullet : Item → List String) (item : Option Item) : Prop where
  /-- The heading. -/
  header : (place.childrenWithClass names.header).map (·.text) = heading.toList.map some
  /-- The description. -/
  desc : (place.childrenWithClass names.desc).map (·.text) =
    (item.bind (·.desc)).toList.map some
  /-- The bullets, in the order of the children. -/
  list : (place.childrenWithClass names.list).map (·.children.map texts) =
    ((item.bind (·.children)).map (·.map fun child => (bullet child).map some)).toList
  /-- Nothing else. -/
  only : place.children.length = heading.toList.length + (item.bind (·.desc)).toList.length +
    (item.bind (·.children)).toList.length

/-- Whether the places of a layout carry the given class names, in order, and each of them shows the
item with its number, if there is one. -/
structure Figure.PlacesShow (board : Figure) (classes : List (List String))
    (names : PlaceClasses) (heading : Nat → Option Item → Option String)
    (bullet : Item → List String) (items : List Item) : Prop where
  /-- The class names of the places. -/
  classes : board.children.map (·.classes) = classes
  /-- What they show. -/
  shows : ∀ (i : Nat) place, board.children[i]? = some place →
    place.ShowsItem names (heading i items[i]?) bullet items[i]?

/-- The label of an item, or the usual heading if there is no item or its label is empty. -/
def labelOr (usual : String) (item : Option Item) : String :=
  if (item.map (·.label)).getD "" = "" then usual else (item.map (·.label)).getD ""

namespace Document

/-- Whether the items up to a limit are drawn and no others, and lint has one finding about the
number of items if that leaves out any, which names the last one drawn, and none if not. -/
structure DrawsUpTo (d : Document) (limit : Nat) (what : String) (options : DrawOptions)
    (sheet : Stylesheet) : Prop where
  /-- The items behind the limit make no difference. -/
  truncated :
    ({ d with items := d.items.take limit } : Document).draw options sheet = d.draw options sheet
  /-- If there are none then there is no finding. -/
  silent : d.items.take limit = d.items → d.findingsOf .cardinality = []
  /-- If there are some then there is one finding. -/
  warns : d.items.take limit ≠ d.items →
    ∃ last, (d.items.take limit).getLast? = some last ∧
      (d.findingsOf .cardinality).map Finding.display =
        ["[cardinality] " ++ (toString d.items.length ++ " items given but only " ++ toString limit
          ++ " " ++ what ++ " are drawn; items after \"" ++ last.label ++ "\" are ignored")]

end Document

/-! ## Findings -/

section Lint

variable {d : Document} {places : Places}

/-- Lint has nothing to say if no item is left out. -/
lemma findingsOf_cardinality_of_take_eq
    (hplaces : (Layout.ofTemplate d.template).places? = some places)
    (h : d.items.take places.count = d.items) : d.findingsOf .cardinality = [] := by
  have hle : ¬ places.count < d.items.length := by
    have hlen := congrArg List.length h
    rw [List.length_take] at hlen
    omega
  rw [Document.findingsOf_cardinality, Document.lintPlaces, hplaces]
  simp only [if_neg hle]
  split <;> rfl

/-- Lint names the last item drawn if others are left out. -/
lemma findingsOf_cardinality_of_take_ne
    (hplaces : (Layout.ofTemplate d.template).places? = some places)
    (hpos : 0 < places.count) (h : d.items.take places.count ≠ d.items) :
    ∃ last, (d.items.take places.count).getLast? = some last ∧
      d.findingsOf .cardinality = [.surplusItems d.items.length places last.label] := by
  have hlt : places.count < d.items.length :=
    Nat.lt_of_not_le fun hle => h (List.take_of_length_le hle)
  have hne : d.items.take places.count ≠ [] := by
    rw [Ne, List.take_eq_nil_iff, not_or]
    exact ⟨Nat.ne_of_gt hpos, List.ne_nil_of_length_pos (Nat.zero_lt_of_lt hlt)⟩
  have hlast := List.getLast?_eq_some_getLast hne
  refine ⟨_, hlast, ?_⟩
  rw [Document.findingsOf_cardinality, Document.lintPlaces, hplaces]
  simp only [hlast, if_pos hlt]

lemma findingsOf_cardinality_of_places?_eq_none
    (h : (Layout.ofTemplate d.template).places? = none) : d.findingsOf .cardinality = [] := by
  rw [Document.findingsOf_cardinality, Document.lintPlaces, h]

end Lint

/-! ## Places -/

section ShowsItem

open Drawing Figure

lemma childrenWithClass_texts (name name' : String) (text : Option String) :
    (optionalText name' text).filter (·.hasClass name) =
      if name' = name then optionalText name' text else [] := by
  cases text with
  | none => simp [optionalText]
  | some text =>
    by_cases h : name' = name
    · simp [optionalText, hasClass, textBlock, h]
    · simp [optionalText, hasClass, textBlock, h, Ne.symm h]

lemma childrenWithClass_bulletList (name name' : String) (entry : Item → Figure) (item : Item) :
    (bulletList name' entry item).filter (·.hasClass name) =
      if name' = name then bulletList name' entry item else [] := by
  cases h : item.children with
  | none => simp [bulletList, h]
  | some children =>
    by_cases hname : name' = name
    · simp [bulletList, h, hasClass, hname]
    · simp [bulletList, h, hasClass, hname, Ne.symm hname]

variable {place : Figure} {names : PlaceClasses} {heading : Option String}
  {bullet : Item → List String} {item : Option Item}

/-- **What a place shows**, if it is drawn with a heading, a description and bullets in boxes with
class names of their own. -/
lemma showsItem_of_children (entry : Item → Figure) (hdesc : names.header ≠ names.desc)
    (hlist : names.header ≠ names.list) (hboth : names.desc ≠ names.list)
    (hbullet : ∀ child, (entry child).texts = (bullet child).map some)
    (h : place.children = optionalText names.header heading ++
      (optionalText names.desc (item.bind (·.desc)) ++
        (item.map (bulletList names.list entry)).getD [])) :
    place.ShowsItem names heading bullet item := by
  have hbullets : ∀ name, ((item.map (bulletList names.list entry)).getD []).filter
      (·.hasClass name) = if names.list = name then
        (item.map (bulletList names.list entry)).getD [] else [] := by
    intro name
    cases item with
    | none => simp
    | some item => exact childrenWithClass_bulletList name names.list entry item
  have hfilter : ∀ name, place.childrenWithClass name =
      (if names.header = name then optionalText names.header heading else []) ++
        ((if names.desc = name then optionalText names.desc (item.bind (·.desc)) else []) ++
          if names.list = name then (item.map (bulletList names.list entry)).getD [] else []) := by
    intro name
    rw [childrenWithClass, h, List.filter_append, List.filter_append, childrenWithClass_texts,
      childrenWithClass_texts, hbullets]
  have htexts : ∀ (name : String) (text : Option String),
      (optionalText name text).map (·.text) = text.toList.map some := by
    intro name text
    cases text <;> rfl
  refine ⟨?_, ?_, ?_, ?_⟩
  · rw [hfilter, if_pos rfl, if_neg hdesc.symm, if_neg hlist.symm, List.append_nil,
      List.append_nil, htexts]
  · rw [hfilter, if_neg hdesc, if_pos rfl, if_neg hboth.symm, List.nil_append, List.append_nil,
      htexts]
  · rw [hfilter, if_neg hlist, if_neg hboth, if_pos rfl, List.nil_append, List.nil_append]
    cases item with
    | none => rfl
    | some item =>
      cases hchildren : item.children with
      | none => simp [bulletList, hchildren]
      | some children =>
        simp only [bulletList, hchildren, Option.map_some, Option.toList_some, Option.getD_some,
          List.map_singleton, List.map_map, Option.bind_some]
        simp only [Function.comp_def, hbullet]
  · rw [h, List.length_append, List.length_append, ← Nat.add_assoc]
    congr 1
    · cases heading <;> cases item.bind (·.desc) <;> rfl
    · cases item with
      | none => rfl
      | some item => cases hchildren : item.children <;> simp [bulletList, hchildren]

end ShowsItem

namespace Drawing

open Figure

variable (items : List Item)

lemma texts_bullet (child : Item) : (bullet child).texts = [child.label].map some := rfl

lemma texts_describedBullet (child : Item) : (describedBullet child).texts =
    (child.label :: (child.desc.map (" - " ++ ·)).toList).map some := by
  rw [texts, describedBullet]
  cases child.desc <;> rfl

/-! ### SWOT analyses -/

lemma swot_take : swot (items.take 4) = swot items := by
  simp [swot, swotPlaces, List.getElem?_take]

lemma swotHeading_eq (usual : String) (item : Option Item) :
    swotHeading usual item = labelOr usual item := by
  cases item with
  | none => rfl
  | some item =>
    rw [swotHeading, labelOr, Option.map_some, Option.getD_some]
    simp

lemma placesShow_swot : (swot items).PlacesShow
    [["swot-quadrant", "swot-s"], ["swot-quadrant", "swot-w"], ["swot-quadrant", "swot-o"],
      ["swot-quadrant", "swot-t"]]
    ⟨"swot-header", "swot-content", "swot-list"⟩
    (fun i item =>
      some (labelOr (["Strengths", "Weaknesses", "Opportunities", "Threats"].getD i "") item))
    (fun child => [child.label]) items := by
  refine ⟨rfl, fun i place hplace => ?_⟩
  rw [swot, block, List.getElem?_mapIdx, Option.map_eq_some_iff] at hplace
  obtain ⟨names, hnames, rfl⟩ := hplace
  have husual : ["Strengths", "Weaknesses", "Opportunities", "Threats"].getD i "" = names.1 := by
    have hfst : ["Strengths", "Weaknesses", "Opportunities", "Threats"] =
        swotPlaces.map (·.1) := rfl
    rw [hfst, List.getD_eq_getElem?_getD, List.getElem?_map, hnames]
    rfl
  rw [husual]
  refine showsItem_of_children bullet (by decide) (by decide) (by decide)
    texts_bullet ?_
  rw [swotPlace, swotHeading_eq]
  cases items[i]? <;> rfl

/-! ### Comparisons -/

lemma binary_take : binary (items.take 2) = binary items := by
  match items with
  | [] => rfl
  | [first] => rfl
  | first :: second :: others => rfl

lemma placesShow_binary : (binary items).PlacesShow
    ([["compare-side", "compare-left"], ["compare-side", "compare-right"]].take items.length)
    ⟨"compare-header", "compare-desc", "compare-list"⟩ (fun _ item => item.map (·.label))
    (fun child => child.label :: (child.desc.map (" - " ++ ·)).toList) items := by
  refine ⟨?_, fun i place hplace => ?_⟩
  · match items with
    | [] => rfl
    | [first] => rfl
    | first :: second :: others =>
      rw [List.take_of_length_le (Nat.le_add_left 2 others.length)]
      rfl
  · rw [binary, block, List.getElem?_zipWith_eq_some] at hplace
    obtain ⟨side, item, -, hitem, rfl⟩ := hplace
    rw [hitem]
    exact showsItem_of_children describedBullet (by decide) (by decide) (by decide)
      texts_describedBullet rfl

/-! ### Quadrants -/

lemma quadrant_take : quadrant (items.take 4) = quadrant items := by
  rw [quadrant, quadrant]
  congr 1
  apply List.map_congr_left
  intro i hi
  have hlt : i < 4 := List.mem_range.mp hi
  rw [List.getElem?_take_of_lt hlt]

lemma placesShow_quadrant : (quadrant items).PlacesShow
    [["quadrant-cell", "quadrant-1"], ["quadrant-cell", "quadrant-2"],
      ["quadrant-cell", "quadrant-3"], ["quadrant-cell", "quadrant-4"]]
    ⟨"quadrant-header", "quadrant-desc", "quadrant-list"⟩ (fun _ item => item.map (·.label))
    (fun child => [child.label]) items := by
  refine ⟨rfl, fun i place hplace => ?_⟩
  rw [quadrant, block, List.getElem?_map, Option.map_eq_some_iff] at hplace
  obtain ⟨index, hindex, rfl⟩ := hplace
  obtain ⟨_, hget⟩ := List.getElem?_eq_some_iff.mp hindex
  rw [List.getElem_range] at hget
  subst hget
  refine showsItem_of_children bullet (by decide) (by decide) (by decide)
    texts_bullet ?_
  cases items[i]? <;> rfl

end Drawing

/-! ## Documents -/

namespace Document

variable (d : Document) (options : DrawOptions) (sheet : Stylesheet)

/-- The figure of the layout stands in the drawing. -/
lemma board?_draw : (d.draw options sheet).board? =
    some ((Layout.ofTemplate d.template).draw d.items (sheet.pieColor options.mode)) := by
  rw [Figure.board?, draw, List.getLast?_append]
  rfl

/-- Items that make no difference to the layout make none to the drawing. -/
lemma draw_take {n : Nat} (h : ∀ fill, (Layout.ofTemplate d.template).draw (d.items.take n) fill =
      (Layout.ofTemplate d.template).draw d.items fill) :
    ({ d with items := d.items.take n } : Document).draw options sheet = d.draw options sheet := by
  rw [draw, draw, content, content]
  simp only [h]
  rfl

/-- A layout with places draws the items up to their number, and lint agrees. -/
lemma drawsUpTo_of_places? (places : Places)
    (hplaces : (Layout.ofTemplate d.template).places? = some places) (hpos : 0 < places.count)
    (h : ∀ fill, (Layout.ofTemplate d.template).draw (d.items.take places.count) fill =
      (Layout.ofTemplate d.template).draw d.items fill) :
    d.DrawsUpTo places.count places.name options sheet := by
  refine ⟨d.draw_take options sheet h, findingsOf_cardinality_of_take_eq hplaces, fun hne => ?_⟩
  obtain ⟨last, hlast, hcardinality⟩ := findingsOf_cardinality_of_take_ne hplaces hpos hne
  refine ⟨last, hlast, ?_⟩
  rw [hcardinality]
  rfl

/-- **Drawing and lint agree on the items that are drawn.** A SWOT analysis, a comparison of two
sides and a quadrant draw the first four, two and four items, each at its own place, whatever the
others are, and lint has one finding about the number of items exactly if there are others. Any
other layout draws every item, in order, and lint has no such finding.

**Proof sketch.** By the layout of the document. A layout with places draws the items up to their
number (`drawsUpTo_of_places?`), each at its place (`Drawing.placesShow_swot` and its siblings). The
others draw each item (`Layout.drawsEach_rows` and its siblings). -/
theorem draw_agrees_with_lint :
    ∃ board, (d.draw options sheet).board? = some board ∧
      match Layout.ofTemplate d.template with
      | .compare .swot =>
        d.DrawsUpTo 4 "SWOT quadrants" options sheet ∧
        board.PlacesShow
          [["swot-quadrant", "swot-s"], ["swot-quadrant", "swot-w"], ["swot-quadrant", "swot-o"],
            ["swot-quadrant", "swot-t"]]
          ⟨"swot-header", "swot-content", "swot-list"⟩
          (fun i item =>
            some (labelOr (["Strengths", "Weaknesses", "Opportunities", "Threats"].getD i "") item))
          (fun child => [child.label]) d.items
      | .compare .binary =>
        d.DrawsUpTo 2 "comparison panels" options sheet ∧
        board.PlacesShow
          ([["compare-side", "compare-left"], ["compare-side", "compare-right"]].take
            d.items.length)
          ⟨"compare-header", "compare-desc", "compare-list"⟩ (fun _ item => item.map (·.label))
          (fun child => child.label :: (child.desc.map (" - " ++ ·)).toList) d.items
      | .quadrant =>
        d.DrawsUpTo 4 "quadrant cells" options sheet ∧
        board.PlacesShow
          [["quadrant-cell", "quadrant-1"], ["quadrant-cell", "quadrant-2"],
            ["quadrant-cell", "quadrant-3"], ["quadrant-cell", "quadrant-4"]]
          ⟨"quadrant-header", "quadrant-desc", "quadrant-list"⟩ (fun _ item => item.map (·.label))
          (fun child => [child.label]) d.items
      | layout => layout.DrawsEach board d.items ∧ d.findingsOf .cardinality = [] := by
  refine ⟨_, d.board?_draw options sheet, ?_⟩
  have hplaces := d.drawsUpTo_of_places? options sheet
  have hnone := findingsOf_cardinality_of_places?_eq_none (d := d)
  generalize Layout.ofTemplate d.template = layout at hplaces hnone
  cases layout with
  | list layout => exact ⟨Layout.drawsEach_rows d.items layout, hnone rfl⟩
  | sequence layout => exact ⟨Layout.drawsEach_steps d.items layout, hnone rfl⟩
  | hierarchy layout => exact ⟨Layout.drawsEach_tree d.items layout, hnone rfl⟩
  | chart layout => exact ⟨Layout.drawsEach_chart d.items _ layout, hnone rfl⟩
  | compare layout =>
    cases layout with
    | swot =>
      exact ⟨hplaces _ rfl (by decide) fun _ => Drawing.swot_take d.items,
        Drawing.placesShow_swot d.items⟩
    | binary =>
      exact ⟨hplaces _ rfl (by decide) fun _ => Drawing.binary_take d.items,
        Drawing.placesShow_binary d.items⟩
  | quadrant =>
    exact ⟨hplaces _ rfl (by decide) fun _ => Drawing.quadrant_take d.items,
      Drawing.placesShow_quadrant d.items⟩

end Document

end Placard
