import Placard.Proofs.Drawing.Percentages
import Placard.Proofs.Drawing.Places

set_option relaxedAutoImplicit false
set_option autoImplicit false

/-!
# Charts that show something

A bar or a column is drawn for every item, and the greatest one has the full extent. In a pie the
greatest item has a slice too, however many others there are: once the total is great enough, the
other magnitudes are lost in rounding. The one exception is a total above all finite numbers. Then
all slices are empty, and lint, which looks at the single magnitudes, says nothing.

## Main definitions

* `Placard.ChartLayout.markClass`, `Placard.Figure.extent?`: what a chart draws for its items.
* `Placard.Document.ShowsSomething`: a drawing has a slice, a bar or a column that is not empty.
* `Placard.Chart.PartialTotal`: a total that is zero or above, and not much above the magnitudes.

## Main results

* `Placard.Chart.partialTotal_total`: totals are not much above the magnitudes.
* `Placard.Chart.exists_sweep_pos_iff`: a pie shows something iff its total is finite.
* `Placard.Document.chart_shows_something_iff`: which charts show something, and what lint says.
-/

namespace Placard

/-- The class name of what a chart draws for its items. -/
def ChartLayout.markClass : ChartLayout → String
  | .pie => "pie-slice"
  | .bar => "bar"
  | .column => "column"

/-- The extent of a slice, a bar or a column: its angle, or its percentage. -/
def Figure.extent? (f : Figure) : Option Float :=
  match f.shape with
  | .wedge w => some w.sweep
  | _ => f.styles.findSome? (·.value.percent?)

namespace Chart

/-! ## The total of magnitudes -/

/-- Whether a number is a magnitude below a power of two: it is zero, or finite and above zero. -/
structure MagnitudeBelow (p : ℤ) (x : Float) : Prop where
  /-- It is zero or above. -/
  nonneg : x = 0 ∨ 0 < x
  /-- It is finite. -/
  finite : x.isFinite = true
  /-- It is below the power. -/
  lt : exactValue x < 2 ^ p

/-- Whether a number can be the total of magnitudes below a power of two: it is zero or above, and
if it is finite then it is at most the power with 53 bits more. -/
structure PartialTotal (p : ℤ) (s : Float) : Prop where
  /-- It is zero or above. -/
  nonneg : s = 0 ∨ 0 < s
  /-- It is not much greater than the magnitudes. -/
  le : s.isFinite = true → exactValue s ≤ 2 ^ (p + 53)

section Total

variable {p : ℤ} {s x : Float} {xs : List Float}

lemma not_zero_lt_zero : ¬ (0 : Float) < 0 := by decide +kernel

lemma isFinite_of_add (hpos : 0 < s) (hx : x.isFinite = true) (hposx : 0 < x)
    (h : (s + x).isFinite = true) : s.isFinite = true := by
  by_contra hs
  rw [eq_infinity hpos hs, infinity_add hx hposx] at h
  exact not_isFinite_infinity h

/-- **A further magnitude does not lift a total above the bound**: it is lost in rounding there. -/
lemma PartialTotal.add (h : PartialTotal p s) (hx : MagnitudeBelow p x) (hp : -1074 ≤ p) :
    PartialTotal p (s + x) := by
  obtain rfl | hposx := hx.nonneg
  · obtain rfl | hpos := h.nonneg
    · have hzero : (0 : Float) + 0 = 0 := by decide +kernel
      rw [hzero]
      exact h
    · rw [add_zero_of_pos hpos]
      exact h
  obtain rfl | hpos := h.nonneg
  · have hle : (2 : ℝ) ^ p ≤ 2 ^ (p + 53) := zpow_le_zpow_right₀ one_le_two (by omega)
    rw [zero_add_of_pos hposx]
    exact ⟨.inr hposx, fun _ => hx.lt.le.trans hle⟩
  · refine ⟨.inr (add_pos_of_pos hpos hx.finite hposx), fun hfinite => ?_⟩
    have hs := isFinite_of_add hpos hx.finite hposx hfinite
    have hlt : exactValue s + exactValue x < 2 ^ (p + 53) + 2 ^ p :=
      add_lt_add_of_le_of_lt (h.le hs) hx.lt
    exact (roundsTo_add hs hx.finite hpos hposx).le_two_zpow hfinite hp hlt

lemma PartialTotal.foldl (h : PartialTotal p s) (hxs : ∀ x ∈ xs, MagnitudeBelow p x)
    (hp : -1074 ≤ p) : PartialTotal p (xs.foldl (· + ·) s) := by
  induction xs generalizing s with
  | nil => exact h
  | cons x xs ih =>
    rw [List.forall_mem_cons] at hxs
    exact ih (h.add hxs.1 hp) hxs.2

/-- **Totals are not much above the magnitudes**, however many of them there are. -/
theorem partialTotal_total (hxs : ∀ x ∈ xs, MagnitudeBelow p x) (hp : -1074 ≤ p) :
    PartialTotal p (total xs) := by
  refine PartialTotal.foldl ⟨.inl rfl, fun _ => ?_⟩ hxs hp
  rw [exactValue_zero]
  positivity

lemma MagnitudeBelow.add_pos (hx : MagnitudeBelow p x) (hs : s = 0 ∨ 0 < s) (h : 0 < s ∨ 0 < x) :
    0 < s + x := by
  obtain rfl | hposx := hx.nonneg
  · have hpos := h.resolve_right not_zero_lt_zero
    rw [add_zero_of_pos hpos]
    exact hpos
  obtain rfl | hpos := hs
  · rw [zero_add_of_pos hposx]
    exact hposx
  · exact add_pos_of_pos hpos hx.finite hposx

/-- A total above zero stays above zero. -/
lemma foldl_add_pos (hpos : 0 < s) (hxs : ∀ x ∈ xs, MagnitudeBelow p x) :
    0 < xs.foldl (· + ·) s := by
  induction xs generalizing s with
  | nil => exact hpos
  | cons x xs ih =>
    rw [List.forall_mem_cons] at hxs
    exact ih (hxs.1.add_pos (.inr hpos) (.inl hpos)) hxs.2

/-- A magnitude above zero makes a total above zero. -/
lemma total_pos (hx : x ∈ xs) (hpos : 0 < x) (hxs : ∀ x ∈ xs, MagnitudeBelow p x)
    (hp : -1074 ≤ p) : 0 < total xs := by
  obtain ⟨before, after, rfl⟩ := List.append_of_mem hx
  rw [List.forall_mem_append, List.forall_mem_cons] at hxs
  have hbefore := (partialTotal_total hxs.1 hp).nonneg
  rw [total, List.foldl_append, List.foldl_cons]
  exact foldl_add_pos (hxs.2.1.add_pos hbefore (.inr hpos)) hxs.2.2

end Total

/-! ## Sweeps -/

section Sweep

variable {items : List Item} {x sum : Float}

lemma one_le_exactValue_two : 1 ≤ exactValue 2 := by
  have hread : Binary.ofFloat 2 =
      .finite { negative := false, mantissa := 2 ^ 52, exponent := -51 } := by decide +kernel
  rw [exactValue, hread]
  norm_num [Binary.value]

lemma one_le_exactValue_halfTurn : 1 ≤ exactValue halfTurn := by
  rw [exactValue_halfTurn]
  norm_num

/-- A slice is not empty if its part of the total is not. -/
lemma sweep_pos (hsum : 0 < sum) (h : 0 < x / sum) : 0 < sweep halfTurn sum x := by
  rw [sweep, if_pos hsum]
  exact mul_pos_of_one_le (mul_pos_of_one_le h rfl one_le_exactValue_two) rfl
    one_le_exactValue_halfTurn

/-- Nothing is a part of an infinite total. -/
lemma sweep_of_not_isFinite (hnonneg : x = 0 ∨ 0 < x) (hx : x.isFinite = true)
    (hsum : ¬ sum.isFinite = true) : sweep halfTurn sum x = 0 := by
  obtain rfl | hpos := hnonneg
  · exact sweep_zero sum
  rw [sweep]
  split_ifs with hpossum
  · rw [eq_infinity hpossum hsum, div_infinity hx hpos]
    decide +kernel
  · rfl

end Sweep

/-! ## The greatest item -/

section Items

variable {items : List Item} {item : Item}

lemma magnitude_nonneg (item : Item) : item.magnitude = 0 ∨ 0 < item.magnitude := by
  by_cases hpos : 0 < item.magnitude
  · exact .inr hpos
  · exact .inl (Item.magnitude_eq_zero hpos)

/-- If any item has a size then one has the greatest. -/
lemma exists_greatest (h : ∃ item ∈ items, 0 < item.magnitude) :
    ∃ item ∈ items, 0 < item.magnitude ∧ ∀ other ∈ items, other.size ≤ item.size := by
  have hpos := greatest_magnitude_pos_iff.mpr h
  obtain hzero | hmem := greatest_eq_zero_or_mem (items.map Item.magnitude)
  · rw [hzero] at hpos
    exact absurd hpos not_zero_lt_zero
  · obtain ⟨item, hitem, heq⟩ := List.mem_map.mp hmem
    refine ⟨item, hitem, heq ▸ hpos, fun other hother => ?_⟩
    have hsize : item.size = greatest (items.map Item.size) := by
      rw [Item.size, heq, (exactValue_greatest_magnitude items).2]
    rw [hsize]
    exact le_greatest (List.mem_map_of_mem hother)

/-- The greatest item has a slice, unless the total is infinite. -/
lemma sweep_pos_of_greatest (hitem : item ∈ items) (hpos : 0 < item.magnitude)
    (hgreatest : ∀ other ∈ items, other.size ≤ item.size)
    (hfinite : (total (items.map Item.magnitude)).isFinite = true) :
    0 < sweep halfTurn (total (items.map Item.magnitude)) item.magnitude := by
  obtain ⟨m, e, hm, -, hcanonical, -, hvalue⟩ :=
    exists_unpack_of_pos item.isFinite_magnitude hpos
  have hleast := hcanonical.least_le
  have hbelow : ∀ x ∈ items.map Item.magnitude, MagnitudeBelow (53 + e) x := by
    rw [List.forall_mem_map]
    refine fun other hother => ⟨magnitude_nonneg other, other.isFinite_magnitude, ?_⟩
    calc exactValue other.magnitude ≤ exactValue item.magnitude := hgreatest other hother
      _ = m * 2 ^ e := hvalue
      _ < 2 ^ (53 + e) := hcanonical.mul_lt
  have htotal := total_pos (List.mem_map_of_mem hitem) hpos hbelow (by omega)
  have hle := (partialTotal_total hbelow (by omega)).le hfinite
  refine sweep_pos htotal ((roundsTo_div item.isFinite_magnitude hfinite hpos htotal).pos ?_)
  rw [le_div_iff₀ ((exactValue_pos_iff hfinite).mpr htotal)]
  calc (2 : ℝ) ^ (-1074 : ℤ) * exactValue (total (items.map Item.magnitude))
      ≤ 2 ^ (-1074 : ℤ) * 2 ^ (53 + e + 53) := by gcongr
    _ = 2 ^ (-1074 + (53 + e + 53)) := (zpow_add₀ two_ne_zero _ _).symm
    _ ≤ 2 ^ e := zpow_le_zpow_right₀ one_le_two (by omega)
    _ ≤ m * 2 ^ e := two_zpow_le_mul hm e
    _ = exactValue item.magnitude := hvalue.symm

/-- **A pie shows something** iff it has an item with a size and its total is finite. -/
theorem exists_sweep_pos_iff :
    (∃ item ∈ items, 0 < sweep halfTurn (total (items.map Item.magnitude)) item.magnitude) ↔
      (∃ item ∈ items, 0 < item.magnitude) ∧
        (total (items.map Item.magnitude)).isFinite = true := by
  constructor
  · rintro ⟨item, hitem, hpos⟩
    refine ⟨⟨item, hitem, ?_⟩, ?_⟩
    · by_contra hzero
      rw [Item.magnitude_eq_zero hzero, sweep_zero] at hpos
      exact not_zero_lt_zero hpos
    · by_contra hfinite
      rw [sweep_of_not_isFinite (magnitude_nonneg item) item.isFinite_magnitude hfinite] at hpos
      exact not_zero_lt_zero hpos
  · rintro ⟨hsome, hfinite⟩
    obtain ⟨item, hitem, hpos, hgreatest⟩ := exists_greatest hsome
    exact ⟨item, hitem, sweep_pos_of_greatest hitem hpos hgreatest hfinite⟩

/-- Bars and columns show something iff there is an item with a size. -/
theorem exists_percentOf_pos_iff :
    (∃ item ∈ items, 0 < percentOf items item) ↔ ∃ item ∈ items, 0 < item.magnitude := by
  constructor
  · rintro ⟨item, hitem, hpos⟩
    by_contra hzero
    push Not at hzero
    rw [(measured_percentOf items).empty hzero item hitem] at hpos
    exact not_zero_lt_zero hpos
  · intro hsome
    obtain ⟨item, hitem, hpos, hgreatest⟩ := exists_greatest hsome
    refine ⟨item, hitem, ?_⟩
    rw [(measured_percentOf items).full item hitem hpos fun other hother => ?_]
    · decide +kernel
    · rw [← size_lt_size_iff]
      exact (hgreatest other hother).not_gt

/-! ## What is drawn -/

/-- The extent with which an item is drawn. -/
def extentOf (layout : ChartLayout) (items : List Item) (item : Item) : Float :=
  match layout with
  | .pie => sweep halfTurn (total (items.map Item.magnitude)) item.magnitude
  | .bar | .column => percentOf items item

/-- The slices of a pie are found. -/
lemma findAll_slices (items : List Item) (fill : Nat → String) :
    (Drawing.chart items fill .pie).findAll "pie-slice" =
      (wedges items fill).map Drawing.pieSlice := by
  have hlegend : ∀ f ∈ List.zipWith (Drawing.legendEntry (total (items.map Item.magnitude))) items
      (wedges items fill), f.findAll "pie-slice" = [] := by
    intro f hf
    rw [← List.map_uncurry_zip_eq_zipWith, List.mem_map] at hf
    obtain ⟨⟨item, wedge⟩, -, rfl⟩ := hf
    rfl
  have hslice : ∀ wedge, (Drawing.pieSlice wedge).findAll "pie-slice" =
      [Drawing.pieSlice wedge] := fun _ => rfl
  rw [Figure.findAll_of_not_hasClass (by rfl), Drawing.chart, Drawing.pie, Figure.block,
    Figure.findAllIn, Figure.findAllIn, Figure.findAllIn, Figure.findAll_of_not_hasClass (by rfl),
    Figure.findAllIn_map hslice, Figure.findAll_of_not_hasClass (by rfl), Figure.block,
    Figure.findAllIn_eq_nil hlegend, List.append_nil, List.append_nil]

/-- A chart draws one slice, bar or column for each item, in order, with the extent of the item. -/
lemma map_extent?_chart (items : List Item) (fill : Nat → String) (layout : ChartLayout) :
    ((Drawing.chart items fill layout).findAll layout.markClass).map Figure.extent? =
      items.map fun item => some (extentOf layout items item) := by
  cases layout with
  | pie =>
    have hsweeps := congrArg (List.map some) (map_sweep_wedges items fill)
    rw [List.map_map, List.map_map] at hsweeps
    rw [ChartLayout.markClass, findAll_slices, List.map_map]
    exact hsweeps
  | bar =>
    rw [ChartLayout.markClass, findAll_bars, List.map_map]
    rfl
  | column =>
    rw [ChartLayout.markClass, findAll_columns, List.map_map]
    rfl

lemma exists_extentOf_pos_iff (layout : ChartLayout) :
    (∃ item ∈ items, 0 < extentOf layout items item) ↔
      (∃ item ∈ items, 0 < item.magnitude) ∧
        (layout = .pie → (total (items.map Item.magnitude)).isFinite = true) := by
  cases layout with
  | pie =>
    refine exists_sweep_pos_iff.trans (and_congr_right fun _ => ?_)
    exact ⟨fun h _ => h, fun h => h rfl⟩
  | bar => exact exists_percentOf_pos_iff.trans ⟨fun h => ⟨h, nofun⟩, And.left⟩
  | column => exact exists_percentOf_pos_iff.trans ⟨fun h => ⟨h, nofun⟩, And.left⟩

end Items

end Chart

/-! ## Documents -/

namespace Document

open Chart

variable {d : Document} {layout : ChartLayout} {options : DrawOptions} {sheet : Stylesheet}

/-- Whether a drawing has a slice, a bar or a column with an extent above zero. -/
def ShowsSomething (drawing : Figure) (layout : ChartLayout) : Prop :=
  ∃ board mark x, drawing.board? = some board ∧ mark ∈ board.findAll layout.markClass ∧
    mark.extent? = some x ∧ 0 < x

lemma showsSomething_draw_iff (h : Layout.ofTemplate d.template = .chart layout) :
    ShowsSomething (d.draw options sheet) layout ↔
      ∃ item ∈ d.items, 0 < extentOf layout d.items item := by
  have hboard := d.board?_draw options sheet
  rw [h, Layout.draw] at hboard
  have hextents := map_extent?_chart d.items (sheet.pieColor options.mode) layout
  constructor
  · rintro ⟨board, mark, x, hdrawn, hmark, hx, hpos⟩
    obtain rfl := Option.some.inj (hboard.symm.trans hdrawn)
    have hmem := List.mem_map_of_mem (f := Figure.extent?) hmark
    rw [hextents, hx, List.mem_map] at hmem
    obtain ⟨item, hitem, heq⟩ := hmem
    exact ⟨item, hitem, Option.some.inj heq ▸ hpos⟩
  · rintro ⟨item, hitem, hpos⟩
    have hmem := List.mem_map_of_mem (f := fun item => some (extentOf layout d.items item)) hitem
    rw [← hextents, List.mem_map] at hmem
    obtain ⟨mark, hmark, hx⟩ := hmem
    exact ⟨_, mark, _, hboard, hmark, hx, hpos⟩

lemma beq_zero_iff (item : Item) : (item.magnitude == 0) = true ↔ ¬ 0 < item.magnitude := by
  constructor
  · intro heq hpos
    rw [beq_iff_compare, unpack_zero] at heq
    obtain ⟨m, e, hm, hunpack⟩ | hunpack := unpack_of_pos hpos
    all_goals
      rw [hunpack] at heq
      cases heq
  · intro hzero
    rw [Item.magnitude_eq_zero hzero]
    decide +kernel

/-- Lint is silent about a chart with items iff one of them has a size. -/
lemma silent_iff (h : Layout.ofTemplate d.template = .chart layout) :
    d.findingsOf .chart = [] ∧ d.items ≠ [] ↔ ∃ item ∈ d.items, 0 < item.magnitude := by
  have hnothing : d.ChartsNothing ↔ d.items ≠ [] ∧ ¬ ∃ item ∈ d.items, 0 < item.magnitude := by
    rw [ChartsNothing]
    push Not
    simp only [beq_zero_iff]
  rw [findingsOf_chart h]
  constructor
  · rintro ⟨hsilent, hitems⟩
    by_contra hnone
    rw [if_pos (hnothing.mpr ⟨hitems, hnone⟩)] at hsilent
    cases hsilent
  · rintro ⟨item, hitem, hpos⟩
    refine ⟨if_neg fun hempty => ?_, List.ne_nil_of_mem hitem⟩
    exact (hnothing.mp hempty).2 ⟨item, hitem, hpos⟩

/-- If the total of a pie is not finite then all of its slices are empty. -/
lemma extent?_of_not_isFinite (h : Layout.ofTemplate d.template = .chart .pie)
    (hfinite : ¬ (total (d.items.map Item.magnitude)).isFinite = true) {board mark : Figure}
    (hboard : (d.draw options sheet).board? = some board)
    (hmark : mark ∈ board.findAll "pie-slice") : mark.extent? = some 0 := by
  have hdrawn := d.board?_draw options sheet
  rw [h, Layout.draw] at hdrawn
  obtain rfl := Option.some.inj (hdrawn.symm.trans hboard)
  have hmem := List.mem_map_of_mem (f := Figure.extent?) hmark
  rw [← ChartLayout.markClass, map_extent?_chart, List.mem_map] at hmem
  obtain ⟨item, -, heq⟩ := hmem
  rw [← heq, extentOf,
    sweep_of_not_isFinite (magnitude_nonneg item) item.isFinite_magnitude hfinite]

/-- **Which charts show something.** Lint is silent about a chart with items, as far as the chart as
a whole is concerned, iff one of the items has a size. Bars and columns show something in just this
case. A pie shows something iff, besides, the total of the sizes is finite; if it is not then all
slices are empty, although lint is silent.

**Proof sketch.** The greatest item has the full bar or column. In a pie, magnitudes below `2 ^ p`
make a total of at most `2 ^ (p + 53)`, since beyond that they are lost in rounding
(`partialTotal_total`); so the greatest of them is a part of the total that is not rounded to zero
(`exists_sweep_pos_iff`). No part of an infinite total is above zero. -/
theorem chart_shows_something_iff (h : Layout.ofTemplate d.template = .chart layout)
    (options : DrawOptions) (sheet : Stylesheet) :
    (d.findingsOf .chart = [] ∧ d.items ≠ [] ↔ ∃ item ∈ d.items, 0 < item.magnitude) ∧
      (ShowsSomething (d.draw options sheet) layout ↔ (∃ item ∈ d.items, 0 < item.magnitude) ∧
        (layout = .pie → (total (d.items.map Item.magnitude)).isFinite = true)) ∧
      (layout = .pie → ¬ (total (d.items.map Item.magnitude)).isFinite = true →
        ∀ board mark, (d.draw options sheet).board? = some board →
          mark ∈ board.findAll "pie-slice" → mark.extent? = some 0) := by
  refine ⟨silent_iff h, (showsSomething_draw_iff h).trans (exists_extentOf_pos_iff layout), ?_⟩
  rintro rfl hfinite board mark hboard hmark
  exact extent?_of_not_isFinite h hfinite hboard hmark

/-- A pie with a single item. -/
def singlePie : Document where
  template := "chart-pie-plain-text"
  items := [{ label := "A", value := some (.number 1) }]

/-- A pie with a single item shows something. -/
theorem single_pie_shows_something :
    Layout.ofTemplate singlePie.template = .chart .pie ∧ singlePie.findingsOf .chart = [] ∧
      ShowsSomething (singlePie.draw {} .builtin) .pie := by
  have hlayout : Layout.ofTemplate singlePie.template = .chart .pie := by decide
  have hsome : ∃ item ∈ singlePie.items, 0 < item.magnitude :=
    ⟨_, List.mem_singleton_self _, by decide +kernel⟩
  have htotal : (total (singlePie.items.map Item.magnitude)).isFinite = true := by decide +kernel
  obtain ⟨hsilent, hshows, -⟩ := chart_shows_something_iff hlayout {} .builtin
  exact ⟨hlayout, (hsilent.mpr hsome).1, hshows.mpr ⟨hsome, fun _ => htotal⟩⟩

/-- A pie with two items whose sizes have no finite total. -/
def overflowingPie : Document where
  template := "chart-pie-plain-text"
  items := [{ label := "A", value := some (.number 1e308) },
    { label := "B", value := some (.number 1e308) }]

/-- **A pie may show nothing although lint is silent**: two great sizes have an infinite total. -/
theorem not_chart_shows_something : ¬ ∀ (d : Document) (layout : ChartLayout)
    (options : DrawOptions) (sheet : Stylesheet), Layout.ofTemplate d.template = .chart layout →
      d.findingsOf .chart = [] → d.items ≠ [] → ShowsSomething (d.draw options sheet) layout := by
  intro hshows
  have hlayout : Layout.ofTemplate overflowingPie.template = .chart .pie := by decide
  have hsome : ∃ item ∈ overflowingPie.items, 0 < item.magnitude :=
    ⟨_, List.mem_cons_self, by decide +kernel⟩
  have htotal : ¬ (total (overflowingPie.items.map Item.magnitude)).isFinite = true := by
    decide +kernel
  obtain ⟨hsilent, hitems⟩ := (silent_iff hlayout).mpr hsome
  have hshown := hshows overflowingPie .pie {} .builtin hlayout hsilent hitems
  rw [showsSomething_draw_iff hlayout, exists_extentOf_pos_iff] at hshown
  exact htotal (hshown.2 rfl)

end Document

end Placard
