import Placard.Proofs.Drawing.Extents

set_option relaxedAutoImplicit false
set_option autoImplicit false

/-!
# The legend of a pie

A pie shows each item twice: as a slice, and as an entry of the legend with its color and its share.
The slices are made first, with a total of their own, and the entries are then made from the items
and the slices side by side. This file shows that both belong together for every list of items and
every list of colors.

## Main definitions

* `Placard.Stylesheet.pickColor?`: the choice of a color, with all that can go wrong in it.
* `Placard.Figure.ShowsShare`: a slice and an entry show the same item.
* `Placard.Chart.LegendMatches`: the slices and the legend of a pie belong together.

## Main results

* `Placard.Stylesheet.pickColor?_eq`: the choice of a color never fails.
* `Placard.Chart.total_magnitudes_pos_iff`: there is a total iff some item has a size.
* `Placard.Chart.pie_matches_legend`: the slices and the legend of every pie belong together.
-/

namespace Placard

/-! ## Colors -/

/-- The remainder of a division, unless it is a division by zero. -/
def remainder? (n d : Nat) : Option Nat := if d = 0 then none else some (n % d)

namespace Stylesheet

/-- The color of the slice at an index, with a division and a look-up that can fail. -/
def pickColor? (s : Stylesheet) (mode : Mode) (index : Nat) : Option String :=
  let colors := s.pie.colors mode
  if colors.isEmpty then some plainSlice
  else (remainder? index colors.length).bind (colors[·]?)

section Colors

variable {s : Stylesheet} {mode : Mode} {index : Nat}

lemma pieColor_of_nil (h : s.pie.colors mode = []) : s.pieColor mode index = plainSlice := by
  simp only [pieColor, h]
  rfl

lemma pieColor_of_ne_nil (h : s.pie.colors mode ≠ []) : s.pieColor mode index =
    (s.pie.colors mode).get ⟨index % (s.pie.colors mode).length,
      Nat.mod_lt _ (List.length_pos_iff.mpr h)⟩ := by
  rw [pieColor, List.get_eq_getElem]
  simp only [List.getElem?_eq_getElem (Nat.mod_lt index (List.length_pos_iff.mpr h)),
    Option.getD_some]

/-- **The choice of a color never fails.** There is no division by the length of an empty list, and
no look-up behind the end of another one. -/
theorem pickColor?_eq (s : Stylesheet) (mode : Mode) (index : Nat) :
    s.pickColor? mode index = some (s.pieColor mode index) := by
  rw [pickColor?]
  by_cases h : s.pie.colors mode = []
  · rw [pieColor_of_nil h, h]
    rfl
  · have hlength := List.length_pos_iff.mpr h
    rw [if_neg (by simpa using h), remainder?, if_neg hlength.ne', Option.bind_some,
      List.getElem?_eq_getElem (Nat.mod_lt index hlength), pieColor_of_ne_nil h,
      List.get_eq_getElem]

end Colors

end Stylesheet

/-! ## Totals and shares -/

lemma point_mem_positional (tenths : Nat) : '.' ∈ Decimal.positional ⟨tenths, -1⟩ := by
  rw [Decimal.positional, if_neg (show ¬ (0 : Int) ≤ -1 by decide)]
  dsimp only
  split
  · exact List.mem_append_right _ List.mem_cons_self
  · exact List.mem_append_left _ (List.mem_cons_of_mem _ List.mem_cons_self)

/-- A number with one decimal place has a point, or is not finite. -/
lemma tenthsText_ne_zero (x : Float) : tenthsText x ≠ "0" := by
  intro h
  rw [tenthsText] at h
  split at h
  · exact absurd h (by decide)
  · next negative _ => cases negative <;> exact absurd h (by decide)
  · next b _ =>
    have hmem := point_mem_positional (roundDiv (10 * b.numerator) b.denominator)
    have hchars := congrArg String.toList h
    rw [String.toList_ofList] at hchars
    have hpoint : '.' ∈ "0".toList := by
      rw [← hchars]
      split
      · exact List.mem_cons_of_mem _ hmem
      · exact hmem
    exact absurd hpoint (by decide)

namespace Chart

section Total

variable {items : List Item}

lemma magnitudeBelow_magnitude (item : Item) : MagnitudeBelow 1024 item.magnitude := by
  refine ⟨magnitude_nonneg item, item.isFinite_magnitude, ?_⟩
  obtain hzero | hpos := magnitude_nonneg item
  · rw [hzero, exactValue_zero]
    positivity
  · obtain ⟨m, e, -, -, hcanonical, hle, hvalue⟩ :=
      exists_unpack_of_pos item.isFinite_magnitude hpos
    calc exactValue item.magnitude = m * 2 ^ e := hvalue
      _ < 2 ^ (53 + e) := hcanonical.mul_lt
      _ ≤ 2 ^ (1024 : ℤ) := zpow_le_zpow_right₀ one_le_two (by omega)

/-- **There is a total iff some item has a size.** -/
theorem total_magnitudes_pos_iff :
    0 < total (items.map Item.magnitude) ↔ ∃ item ∈ items, 0 < item.magnitude := by
  constructor
  · intro hpos
    by_contra hnone
    push Not at hnone
    have hzeros : ∀ x ∈ items.map Item.magnitude, x = 0 := by
      rw [List.forall_mem_map]
      exact fun item hitem => Item.magnitude_eq_zero (hnone item hitem)
    have hzero : (0 : Float) + 0 = 0 := by decide +kernel
    rw [total, foldl_add_of_zeros hzero hzeros] at hpos
    exact not_zero_lt_zero hpos
  · rintro ⟨item, hitem, hpos⟩
    refine total_pos (List.mem_map_of_mem hitem) hpos (p := 1024) ?_ (by decide)
    rw [List.forall_mem_map]
    exact fun other _ => magnitudeBelow_magnitude other

end Total

/-- A legend shows a share of nothing iff there is no total. -/
lemma legendText_eq_zero_iff {label : String} {value total : Float} :
    legendText label value total = label ++ " (0%)" ↔ ¬ 0 < total := by
  have hnothing : label ++ " (0%)" = label ++ " (" ++ "0" ++ "%)" := by
    rw [String.append_assoc, String.append_assoc]
    rfl
  rw [legendText, hnothing]
  by_cases hpos : 0 < total
  · rw [if_pos hpos, String.append_left_inj, String.append_right_inj]
    exact iff_of_false (tenthsText_ne_zero _) (not_not_intro hpos)
  · rw [if_neg hpos]
    exact iff_of_true rfl hpos

end Chart

/-! ## Slices and entries -/

namespace Figure

/-- The color of a slice. -/
def fill? (f : Figure) : Option String :=
  match f.shape with
  | .wedge w => some w.fill
  | _ => none

/-- The color that an entry of a legend shows. -/
def swatch? (entry : Figure) : Option StyleValue :=
  (entry.find? "legend-color").bind (·.style? "background-color")

/-- Whether a slice and an entry of a legend show an item with a color and with its share of a
total. -/
structure ShowsShare (slice entry : Figure) (color : String) (total : Float) (item : Item) :
    Prop where
  /-- The color of the slice. -/
  fill : slice.fill? = some color
  /-- The same color in the legend. -/
  swatch : entry.swatch? = some (.color color)
  /-- The angle is the share of a full turn. -/
  sweep : slice.extent? =
    some (if 0 < total then item.magnitude / total * 2 * halfTurn else 0)
  /-- The text is the label and the share as a percentage. -/
  text : entry.shownAt? "legend-label" =
    some (item.label ++ " (" ++
      (if 0 < total then tenthsText (item.magnitude / total * 100) else "0") ++ "%)")

end Figure

namespace Chart

/-- Whether the slices and the legend of a pie belong together. -/
structure LegendMatches (items : List Item) (color : Nat → String) (pie : Figure) : Prop where
  /-- The pie holds the slices and the legend, and nothing else. -/
  parts : pie.children.map (·.children) =
    [pie.findAll "pie-slice", pie.findAll "legend-item"]
  /-- There is a slice for each item. -/
  slices : (pie.findAll "pie-slice").length = items.length
  /-- There is an entry for each item. -/
  entries : (pie.findAll "legend-item").length = items.length
  /-- They show the items in order, as parts of one total. -/
  shares : ∀ (i : Nat) (item : Item), items[i]? = some item →
    ∃ slice entry, (pie.findAll "pie-slice")[i]? = some slice ∧
      (pie.findAll "legend-item")[i]? = some entry ∧
      slice.ShowsShare entry (color i) (total (items.map Item.magnitude)) item
  /-- All shares are nothing iff no item has a size. -/
  nothing : (∀ item ∈ items, ¬ 0 < item.magnitude) ↔
    ∀ (i : Nat) (item : Item) (entry : Figure), items[i]? = some item →
      (pie.findAll "legend-item")[i]? = some entry →
      entry.shownAt? "legend-label" = some (item.label ++ " (0%)")

section Pie

variable (items : List Item) (fill : Nat → String)

/-- The entries of the legend are found. -/
lemma findAll_entries : (Drawing.chart items fill .pie).findAll "legend-item" =
    List.zipWith (Drawing.legendEntry (total (items.map Item.magnitude))) items
      (wedges items fill) := by
  have hslice : ∀ f ∈ (wedges items fill).map Drawing.pieSlice,
      f.findAll "legend-item" = [] := by
    rw [List.forall_mem_map]
    exact fun _ _ => rfl
  have hentry : ∀ p : Item × Wedge,
      (Function.uncurry (Drawing.legendEntry (total (items.map Item.magnitude))) p).findAll
        "legend-item" =
      [Function.uncurry (Drawing.legendEntry (total (items.map Item.magnitude))) p] :=
    fun _ => rfl
  rw [← List.map_uncurry_zip_eq_zipWith, ← Figure.findAllIn_map hentry,
    Figure.findAll_of_not_hasClass (by rfl), Drawing.chart, Drawing.pie, Figure.block,
    Figure.findAllIn, Figure.findAllIn, Figure.findAllIn, Figure.findAll_of_not_hasClass (by rfl),
    Figure.findAllIn_eq_nil hslice, Figure.findAll_of_not_hasClass (by rfl), Figure.block,
    List.map_uncurry_zip_eq_zipWith, List.append_nil, List.nil_append]

variable {items} {i : Nat} {item : Item}

/-- The slice and the entry of an item. -/
lemma exists_showsShare (hitem : items[i]? = some item) :
    ∃ w : Wedge, (wedges items fill)[i]? = some w ∧
      (Drawing.pieSlice w).ShowsShare
        (Drawing.legendEntry (total (items.map Item.magnitude)) item w) (fill i)
        (total (items.map Item.magnitude)) item := by
  have hi := (List.getElem?_eq_some_iff.mp hitem).1
  obtain ⟨w, hw⟩ : ∃ w, (wedges items fill)[i]? = some w := by
    rw [← Drawing.length_wedges items fill] at hi
    exact ⟨_, List.getElem?_eq_getElem hi⟩
  have hfill : w.fill = fill i := by
    have hat := congrArg (·[i]?) (map_fill_wedges items fill)
    simp only [List.getElem?_map, hw, List.getElem?_range hi, Option.map_some] at hat
    exact Option.some.inj hat
  refine ⟨w, hw, ⟨congrArg some hfill, ?_, ?_, Drawing.shownAt?_legendEntry _ item _⟩⟩
  · rw [← hfill]
    rfl
  · exact congrArg some (sweep_of_getElem?_wedges items fill hitem hw)

variable (items)

/-- **The slices and the legend of a pie belong together.**

**Proof sketch.** The entries are the items and the slices side by side, and there are as many of
either (`exists_showsShare`). The total is above zero iff some item has a size
(`total_magnitudes_pos_iff`), and then no share is written as `0%` (`legendText_eq_zero_iff`). -/
theorem legendMatches_pie : LegendMatches items fill (Drawing.chart items fill .pie) := by
  have hentry : ∀ (i : Nat) (item : Item) (w : Wedge), items[i]? = some item →
      (wedges items fill)[i]? = some w →
      ((Drawing.chart items fill .pie).findAll "legend-item")[i]? =
        some (Drawing.legendEntry (total (items.map Item.magnitude)) item w) := by
    intro i item w hitem hw
    rw [findAll_entries, List.getElem?_zipWith, hitem, hw]
  refine
    { parts := ?parts, slices := ?slices, entries := ?entries, shares := ?shares
      nothing := ?nothing }
  case parts =>
    rw [findAll_slices, findAll_entries]
    rfl
  case slices => rw [findAll_slices, List.length_map, Drawing.length_wedges]
  case entries => rw [findAll_entries, List.length_zipWith, Drawing.length_wedges, Nat.min_self]
  case shares =>
    intro i item hitem
    obtain ⟨w, hw, hshows⟩ := exists_showsShare fill hitem
    refine ⟨_, _, ?_, hentry i item w hitem hw, hshows⟩
    rw [findAll_slices, List.getElem?_map, hw, Option.map_some]
  case nothing =>
    -- an entry shows nothing iff the total, which all entries share, is not above zero
    have hshown : ∀ (i : Nat) (item : Item), items[i]? = some item →
        ∃ entry, ((Drawing.chart items fill .pie).findAll "legend-item")[i]? = some entry ∧
          (entry.shownAt? "legend-label" = some (item.label ++ " (0%)") ↔
            ¬ ∃ item ∈ items, 0 < item.magnitude) := by
      intro i item hitem
      obtain ⟨w, hw, -⟩ := exists_showsShare fill hitem
      refine ⟨_, hentry i item w hitem hw, ?_⟩
      rw [Drawing.shownAt?_legendEntry, Option.some_inj, legendText_eq_zero_iff,
        total_magnitudes_pos_iff]
    constructor
    · intro hnone i item entry hitem hat
      obtain ⟨found, hfound, hiff⟩ := hshown i item hitem
      obtain rfl := Option.some.inj (hat.symm.trans hfound)
      exact hiff.mpr fun ⟨other, hother, hpos⟩ => hnone other hother hpos
    · intro hall item hmem hpos
      obtain ⟨i, hitem⟩ := List.mem_iff_getElem?.mp hmem
      obtain ⟨found, hfound, hiff⟩ := hshown i item hitem
      exact hiff.mp (hall i item found hitem hfound) ⟨item, hmem, hpos⟩

end Pie

/-- **The slices and the legend of every pie belong together**, whatever the colors of the
stylesheet are. There is one slice and one entry for each item, in order and with the color for its
index. The colors of the stylesheet are gone through again and again, and a gray one is taken if
there are none. Each entry shows the label of its item and its share of the total that the slices
are made with, and all shares are written as `0%` iff no item has a size. -/
theorem pie_matches_legend (items : List Item) (mode : Mode) (sheet : Stylesheet) :
    LegendMatches items (sheet.pieColor mode)
        ((Layout.chart .pie).draw items (sheet.pieColor mode)) ∧
      ∀ index, sheet.pickColor? mode index = some (sheet.pieColor mode index) ∧
        sheet.pieColor mode index =
          if h : sheet.pie.colors mode = [] then "#888888"
          else (sheet.pie.colors mode).get ⟨index % (sheet.pie.colors mode).length,
            Nat.mod_lt _ (List.length_pos_iff.mpr h)⟩ := by
  refine ⟨legendMatches_pie items _, fun index => ⟨sheet.pickColor?_eq mode index, ?_⟩⟩
  split
  · next h => exact Stylesheet.pieColor_of_nil h
  · next h => exact Stylesheet.pieColor_of_ne_nil h

end Chart

end Placard
