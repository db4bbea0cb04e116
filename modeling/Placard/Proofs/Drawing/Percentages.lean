import Placard.Proofs.Decimal.Rounding
import Placard.Proofs.Drawing.Parts
import Placard.Proofs.Drawing.Slices

set_option relaxedAutoImplicit false
set_option autoImplicit false

/-!
# Bars and columns in proportion

Bars and columns are drawn with percentages of the greatest size. With real numbers the percentages
are in proportion to the sizes. With 64-bit numbers they are rounded, but stay between 0 and 100,
and the greatest item has exactly 100. A percentage depends on the item and on the greatest size
only, and so not on the order of the items.

## Main definitions

* `Placard.Chart.Scales`: percentages are in proportion to sizes, the greatest having 100.
* `Placard.Chart.percentOf`: the percentage with which an item is drawn.
* `Placard.Chart.Measured`: bounds on the percentages that are drawn.
* `Placard.Chart.DrawnWith`: the bars and columns of items are drawn with given percentages.

## Main results

* `Placard.Chart.greatest_le_iff`: the greatest size is the least bound.
* `Placard.Chart.scales_percentages`: exact percentages are in proportion.
* `Placard.Chart.measured_percentOf`: those that are drawn lie within the same bounds.
* `Placard.Chart.items_in_proportion`: both, in whatever order the items are.
-/

namespace Placard

namespace Chart

/-! ## The greatest size -/

/-- The greatest size is one of the sizes, or zero. -/
lemma greatest_eq_zero_or_mem {α : Type} [OfNat α 0] [LT α] [DecidableLT α] (sizes : List α) :
    greatest sizes = 0 ∨ greatest sizes ∈ sizes := by
  have hfold : ∀ start : α, sizes.foldl (fun a b => if a < b then b else a) start = start ∨
      sizes.foldl (fun a b => if a < b then b else a) start ∈ sizes := by
    induction sizes with
    | nil => exact fun start => .inl rfl
    | cons b sizes ih =>
      intro start
      rw [List.foldl_cons, List.mem_cons]
      rcases ih (if start < b then b else start) with heq | hmem
      · rw [heq]
        split_ifs
        · exact .inr (.inl rfl)
        · exact .inl rfl
      · exact .inr (.inr hmem)
  exact hfold 0

section Greatest

variable {sizes sizes' : List ℝ} {a : ℝ}

lemma foldl_greater_le_iff (sizes : List ℝ) (start a : ℝ) :
    sizes.foldl (fun a b => if a < b then b else a) start ≤ a ↔
      start ≤ a ∧ ∀ b ∈ sizes, b ≤ a := by
  induction sizes generalizing start with
  | nil => simp
  | cons b sizes ih =>
    have hstep : (if start < b then b else start) ≤ a ↔ start ≤ a ∧ b ≤ a := by
      split_ifs with hlt
      · exact ⟨fun hb => ⟨hlt.le.trans hb, hb⟩, And.right⟩
      · exact ⟨fun hstart => ⟨hstart, (not_lt.mp hlt).trans hstart⟩, And.left⟩
    rw [List.foldl_cons, ih, hstep, List.forall_mem_cons, and_assoc]

/-- **The greatest size is the least bound** of the sizes that is not below zero. -/
theorem greatest_le_iff : greatest sizes ≤ a ↔ 0 ≤ a ∧ ∀ b ∈ sizes, b ≤ a :=
  foldl_greater_le_iff sizes 0 a

lemma le_greatest (h : a ∈ sizes) : a ≤ greatest sizes := (greatest_le_iff.mp (le_refl _)).2 a h

lemma greatest_pos_iff : 0 < greatest sizes ↔ ∃ a ∈ sizes, 0 < a := by
  rw [← not_le, greatest_le_iff, not_and]
  push Not
  exact ⟨fun h => h (le_refl 0), fun h _ => h⟩

lemma greatest_eq (h : a ∈ sizes) (hpos : 0 < a) (hle : ∀ b ∈ sizes, b ≤ a) :
    greatest sizes = a :=
  le_antisymm (greatest_le_iff.mpr ⟨hpos.le, hle⟩) (le_greatest h)

/-- The order of the sizes makes no difference. -/
lemma greatest_perm (h : sizes.Perm sizes') : greatest sizes = greatest sizes' := by
  refine eq_of_forall_ge_iff fun a => ?_
  rw [greatest_le_iff, greatest_le_iff]
  simp only [h.mem_iff]

/-! ### 64-bit numbers -/

lemma exactValue_foldl_greater {xs : List Float} (hxs : ∀ x ∈ xs, x.isFinite = true) {start : Float}
    (hstart : start.isFinite = true) :
    (xs.foldl (fun a b => if a < b then b else a) start).isFinite = true ∧
      exactValue (xs.foldl (fun a b => if a < b then b else a) start) =
        (xs.map exactValue).foldl (fun a b => if a < b then b else a) (exactValue start) := by
  induction xs generalizing start with
  | nil => exact ⟨hstart, rfl⟩
  | cons x xs ih =>
    rw [List.forall_mem_cons] at hxs
    have hfinite : (if start < x then x else start).isFinite = true := by
      split_ifs
      · exact hxs.1
      · exact hstart
    have hvalue : exactValue (if start < x then x else start) =
        if exactValue start < exactValue x then exactValue x else exactValue start := by
      rw [apply_ite exactValue]
      exact if_congr (exactValue_lt_iff hstart hxs.1).symm rfl rfl
    rw [List.foldl_cons, List.map_cons, List.foldl_cons, ← hvalue]
    exact ih hxs.2 hfinite

/-- The greatest of finite numbers stands for the greatest of what they stand for. -/
lemma exactValue_greatest {xs : List Float} (hxs : ∀ x ∈ xs, x.isFinite = true) :
    (greatest xs).isFinite = true ∧ exactValue (greatest xs) = greatest (xs.map exactValue) := by
  have hzero : (0 : Float).isFinite = true := rfl
  have hfold := exactValue_foldl_greater hxs hzero
  rw [exactValue_zero] at hfold
  exact hfold

end Greatest

/-! ## Exact percentages -/

/-- Whether percentages are in proportion to sizes, with 100 for the greatest. -/
structure Scales (sizes percents : List ℝ) : Prop where
  /-- There is one for each size. -/
  length : percents.length = sizes.length
  /-- They lie between 0 and 100. -/
  bounds : ∀ p ∈ percents, 0 ≤ p ∧ p ≤ 100
  /-- They are ordered as the sizes. -/
  order : ∀ (i j : Nat) (a b p q : ℝ), sizes[i]? = some a → sizes[j]? = some b →
    percents[i]? = some p → percents[j]? = some q → (p < q ↔ a < b)
  /-- A size that no other exceeds has 100, if it is above zero. -/
  full : ∀ (i : Nat) (a p : ℝ), sizes[i]? = some a → percents[i]? = some p → 0 < a →
    (∀ b ∈ sizes, b ≤ a) → p = 100
  /-- If there is nothing to show then all have 0. -/
  empty : (∀ a ∈ sizes, ¬ 0 < a) → ∀ p ∈ percents, p = 0
  /-- There is no division by a number that is not above zero: it makes no difference what that
  would give. -/
  guarded : ∀ div : ℝ → ℝ → ℝ, (∀ a b, 0 < b → div a b = a / b) →
    (letI : Div ℝ := ⟨div⟩; percentages sizes) = percents

section Exact

variable {sizes : List ℝ} {a b max : ℝ}

lemma scale_of_not_pos {α : Type} [Mul α] [Div α] [OfNat α 0] [LT α] [DecidableLT α] [OfNat α 100]
    {max : α} (h : ¬ 0 < max) (value : α) : scale value max = 0 := if_neg h

lemma scale_bounds (ha : 0 ≤ a) (hle : a ≤ max) : 0 ≤ scale a max ∧ scale a max ≤ 100 := by
  rw [scale]
  split_ifs with hpos
  · have hone : a / max ≤ 1 := (div_le_one hpos).mpr hle
    exact ⟨by positivity, by linarith⟩
  · norm_num

lemma scale_lt_scale_iff (ha : 0 ≤ a) (hbmax : b ≤ max) :
    scale a max < scale b max ↔ a < b := by
  by_cases hpos : 0 < max
  · rw [scale, scale, if_pos hpos, if_pos hpos, mul_lt_mul_iff_left₀ (by norm_num),
      div_lt_div_iff_of_pos_right hpos]
  · rw [scale_of_not_pos hpos, scale_of_not_pos hpos]
    exact iff_of_false (lt_irrefl 0) (by linarith)

lemma scale_self (ha : 0 < a) : scale a a = 100 := by
  rw [scale, if_pos ha, div_self ha.ne', one_mul]

/-- **Exact percentages are in proportion to the sizes.** -/
theorem scales_percentages (hsizes : ∀ a ∈ sizes, 0 ≤ a) : Scales sizes (percentages sizes) := by
  have hof : ∀ {i : Nat} {a p : ℝ}, sizes[i]? = some a → (percentages sizes)[i]? = some p →
      p = scale a (greatest sizes) := by
    intro i a p ha hp
    rw [percentages, List.getElem?_map, ha] at hp
    exact (Option.some.inj hp).symm
  refine
    { length := List.length_map _, bounds := ?bounds, order := ?order, full := ?full
      empty := ?empty, guarded := ?guarded }
  case bounds =>
    rw [percentages, List.forall_mem_map]
    exact fun a ha => scale_bounds (hsizes a ha) (le_greatest ha)
  case order =>
    intro i j a b p q ha hb hp hq
    rw [hof ha hp, hof hb hq]
    exact scale_lt_scale_iff (hsizes a (List.mem_of_getElem? ha))
      (le_greatest (List.mem_of_getElem? hb))
  case full =>
    intro i a p ha hp hpos hle
    rw [hof ha hp, greatest_eq (List.mem_of_getElem? ha) hpos hle, scale_self hpos]
  case empty =>
    intro hzero
    have hnot : ¬ 0 < greatest sizes := by
      rw [greatest_pos_iff]
      rintro ⟨a, ha, hpos⟩
      exact hzero a ha hpos
    rw [percentages, List.forall_mem_map]
    exact fun a _ => scale_of_not_pos hnot a
  case guarded =>
    intro div hdiv
    refine List.map_congr_left fun a _ => ?_
    by_cases hpos : 0 < greatest sizes
    · exact (if_pos hpos).trans ((congrArg (· * 100) (hdiv a _ hpos)).trans (if_pos hpos).symm)
    · exact (if_neg hpos).trans (if_neg hpos).symm

end Exact

/-! ## Percentages as they are drawn -/

/-- The percentage with which an item is drawn among others. -/
def percentOf (items : List Item) (item : Item) : Float :=
  scale item.magnitude (greatest (items.map Item.magnitude))

/-- Whether the percentages with which items are drawn lie between 0 and 100, and the greatest item
has exactly 100. -/
structure Measured (items : List Item) (percent : Item → Float) : Prop where
  /-- They lie between 0 and 100. -/
  bounds : ∀ item ∈ items, (percent item).isFinite = true ∧
    0 ≤ exactValue (percent item) ∧ exactValue (percent item) ≤ 100
  /-- An item that no other exceeds has 100, if it has a size. -/
  full : ∀ item ∈ items, 0 < item.magnitude →
    (∀ other ∈ items, ¬ item.magnitude < other.magnitude) → percent item = 100
  /-- If no item has a size then all have 0. -/
  empty : (∀ item ∈ items, ¬ 0 < item.magnitude) → ∀ item ∈ items, percent item = 0

/-- Whether the bars and the columns of items are drawn with given percentages, in the order of the
items. -/
structure DrawnWith (items : List Item) (percent : Item → Float) : Prop where
  /-- The rows with the bars. -/
  rows : ∀ fill, (Drawing.chart items fill .bar).children =
    items.map fun item => Drawing.barRow item (percent item)
  /-- The columns. -/
  columns : ∀ fill, ((Drawing.chart items fill .column).childrenWithClass "columns").map
    (·.children) = [items.map fun item => Drawing.column item (percent item)]
  /-- The widths of the bars. -/
  widths : ∀ fill, ((Drawing.chart items fill .bar).findAll "bar").map (·.styles) =
    items.map fun item => [⟨"width", .percent (percent item)⟩]
  /-- The heights of the columns. -/
  heights : ∀ fill, ((Drawing.chart items fill .column).findAll "column").map (·.styles) =
    items.map fun item => [⟨"height", .percent (percent item)⟩]

section Drawn

variable {items items' : List Item} {item : Item} {x max : Float}

lemma exactValue_one : exactValue 1 = 1 := by
  have hread : Binary.ofFloat 1 =
      .finite { negative := false, mantissa := 2 ^ 52, exponent := -52 } := by decide +kernel
  rw [exactValue, hread]
  norm_num [Binary.value]

lemma exactValue_hundred : exactValue 100 = 100 := by
  have hread : Binary.ofFloat 100 =
      .finite { negative := false, mantissa := 100 * 2 ^ 46, exponent := -46 } := by decide +kernel
  rw [exactValue, hread]
  norm_num [Binary.value]

/-- A part of a greater number is drawn with at most 100. -/
lemma scale_drawn_bounds (hx : x.isFinite = true) (hmax : max.isFinite = true) (hposx : 0 < x)
    (hposmax : 0 < max) (hle : exactValue x ≤ exactValue max) :
    (scale x max).isFinite = true ∧ 0 ≤ exactValue (scale x max) ∧
      exactValue (scale x max) ≤ 100 := by
  have hvalue := (exactValue_pos_iff hmax).mpr hposmax
  have hone : exactValue x / exactValue max ≤ exactValue 1 := by
    rw [exactValue_one]
    exact (div_le_one hvalue).mpr hle
  have hround := roundsTo_div hx hmax hposx hposmax
  obtain ⟨hfinite, hquotient⟩ := hround.le_of_le rfl (by decide +kernel) hone
  rw [scale, if_pos hposmax]
  obtain hzero | hpos := hround.eq_zero_or_pos
  · have hnothing : (0 : Float) * 100 = 0 := by decide +kernel
    rw [hzero, hnothing, exactValue_zero]
    exact ⟨rfl, le_refl 0, by norm_num⟩
  · have hproduct := roundsTo_mul (z := 100) hfinite rfl hpos (by decide +kernel)
    have hle : exactValue (x / max) * exactValue 100 ≤ exactValue 100 := by
      rw [exactValue_one] at hquotient
      rw [exactValue_hundred]
      linarith
    obtain ⟨hfinal, hbound⟩ := hproduct.le_of_le rfl (by decide +kernel) hle
    exact ⟨hfinal, hproduct.nonneg hfinal, hbound.trans exactValue_hundred.le⟩

lemma scale_zero (hpos : 0 < max) : scale 0 max = 0 := by
  rw [scale, if_pos hpos, zero_div_of_pos hpos]
  decide +kernel

lemma scale_drawn_self (hx : x.isFinite = true) (hpos : 0 < x) : scale x x = 100 := by
  rw [scale, if_pos hpos, div_self_of_pos hx hpos]
  decide +kernel

/-- The greatest magnitude stands for the greatest size. -/
lemma exactValue_greatest_magnitude (items : List Item) :
    (greatest (items.map Item.magnitude)).isFinite = true ∧
      exactValue (greatest (items.map Item.magnitude)) = greatest (items.map Item.size) := by
  have hfinite : ∀ x ∈ items.map Item.magnitude, x.isFinite = true := by
    rw [List.forall_mem_map]
    exact fun item _ => item.isFinite_magnitude
  have hvalue := exactValue_greatest hfinite
  rw [List.map_map] at hvalue
  exact hvalue

lemma greatest_magnitude_pos_iff :
    0 < greatest (items.map Item.magnitude) ↔ ∃ item ∈ items, 0 < item.magnitude := by
  obtain ⟨hfinite, hvalue⟩ := exactValue_greatest_magnitude items
  rw [← exactValue_pos_iff hfinite, hvalue, greatest_pos_iff]
  simp only [List.mem_map, exists_exists_and_eq_and, Item.size_pos_iff]

lemma size_lt_size_iff (a b : Item) : a.size < b.size ↔ a.magnitude < b.magnitude :=
  exactValue_lt_iff a.isFinite_magnitude b.isFinite_magnitude

/-- **What is drawn lies between 0 and 100**, and the greatest item has exactly 100. -/
theorem measured_percentOf (items : List Item) : Measured items (percentOf items) := by
  obtain ⟨hfinite, hvalue⟩ := exactValue_greatest_magnitude items
  refine ⟨fun item hitem => ?_, fun item hitem hpos hgreatest => ?_, fun hempty item _ => ?_⟩
  · rw [percentOf]
    by_cases hmax : 0 < greatest (items.map Item.magnitude)
    · by_cases hpos : 0 < item.magnitude
      · refine scale_drawn_bounds item.isFinite_magnitude hfinite hpos hmax ?_
        rw [hvalue]
        exact le_greatest (List.mem_map_of_mem hitem)
      · rw [Item.magnitude_eq_zero hpos, scale_zero hmax, exactValue_zero]
        exact ⟨rfl, le_refl 0, by norm_num⟩
    · rw [scale_of_not_pos hmax, exactValue_zero]
      exact ⟨rfl, le_refl 0, by norm_num⟩
  · have hle : ∀ a ∈ items.map Item.size, a ≤ item.size := by
      rw [List.forall_mem_map]
      intro other hother
      rw [← not_lt, size_lt_size_iff]
      exact hgreatest other hother
    have hequal : exactValue (greatest (items.map Item.magnitude)) = exactValue item.magnitude := by
      rw [hvalue]
      exact greatest_eq (List.mem_map_of_mem hitem) (Item.size_pos_iff.mpr hpos) hle
    have hmax := greatest_magnitude_pos_iff.mpr ⟨item, hitem, hpos⟩
    rw [percentOf, eq_of_exactValue_eq hfinite item.isFinite_magnitude hmax hpos hequal]
    exact scale_drawn_self item.isFinite_magnitude hpos
  · refine scale_of_not_pos ?_ _
    rw [greatest_magnitude_pos_iff]
    rintro ⟨other, hother, hpos⟩
    exact hempty other hother hpos

/-- The order of the items makes no difference to a percentage. -/
lemma percentOf_perm (h : items'.Perm items) : percentOf items' = percentOf items := by
  obtain ⟨hfinite, hvalue⟩ := exactValue_greatest_magnitude items
  obtain ⟨hfinite', hvalue'⟩ := exactValue_greatest_magnitude items'
  have hequal : exactValue (greatest (items'.map Item.magnitude)) =
      exactValue (greatest (items.map Item.magnitude)) := by
    rw [hvalue, hvalue']
    exact greatest_perm (h.map Item.size)
  have hpos_iff : 0 < greatest (items'.map Item.magnitude) ↔
      0 < greatest (items.map Item.magnitude) := by
    rw [← exactValue_pos_iff hfinite, ← exactValue_pos_iff hfinite', hequal]
  funext item
  rw [percentOf, percentOf]
  by_cases hpos : 0 < greatest (items.map Item.magnitude)
  · rw [eq_of_exactValue_eq hfinite' hfinite (hpos_iff.mpr hpos) hpos hequal]
  · rw [scale_of_not_pos hpos, scale_of_not_pos (mt hpos_iff.mp hpos)]

lemma scaled_eq_map (draw : Item → Float → Figure) (items : List Item) :
    Drawing.scaled draw items = items.map fun item => draw item (percentOf items item) := by
  rw [Drawing.scaled, percentages, List.map_map, List.zipWith_map_right, List.zipWith_self]
  rfl

lemma findAll_bars (items : List Item) (fill : Nat → String) :
    (Drawing.chart items fill .bar).findAll "bar" = items.map fun item =>
      { classes := ["bar"], styles := [⟨"width", .percent (percentOf items item)⟩] } := by
  have hrow : ∀ item, (Drawing.barRow item (percentOf items item)).findAll "bar" =
      [{ classes := ["bar"], styles := [⟨"width", .percent (percentOf items item)⟩] }] :=
    fun _ => rfl
  rw [Figure.findAll_of_not_hasClass (by rfl), Drawing.chart, scaled_eq_map, Figure.block,
    Figure.findAllIn_map hrow]

lemma findAll_columns (items : List Item) (fill : Nat → String) :
    (Drawing.chart items fill .column).findAll "column" = items.map fun item =>
      { classes := ["column"], styles := [⟨"height", .percent (percentOf items item)⟩]
        children := [.textBlock "column-value" (Drawing.valueText item)] } := by
  have hcolumn : ∀ item, (Drawing.column item (percentOf items item)).findAll "column" =
      [{ classes := ["column"], styles := [⟨"height", .percent (percentOf items item)⟩]
         children := [.textBlock "column-value" (Drawing.valueText item)] }] := fun _ => rfl
  rw [Figure.findAll_of_not_hasClass (by rfl), Drawing.chart, scaled_eq_map, Figure.block,
    Figure.findAllIn, Figure.findAll_of_not_hasClass (by rfl), Figure.block,
    Figure.findAllIn_map hcolumn, Figure.findAllIn, List.append_nil]

/-- Bars and columns are drawn with the same percentages. -/
lemma drawnWith_percentOf (items : List Item) : DrawnWith items (percentOf items) := by
  refine ⟨fun _ => scaled_eq_map _ items, fun _ => ?_, fun fill => ?_, fun fill => ?_⟩
  · rw [← scaled_eq_map]
    rfl
  · rw [findAll_bars, List.map_map]
    rfl
  · rw [findAll_columns, List.map_map]
    rfl

end Drawn

/-- **Bars and columns are in proportion to their items.** The exact sizes of the items give exact
percentages between 0 and 100, ordered as the magnitudes: the greatest items have 100 if any item
has a size, else all have 0 without a division. Bars and columns are drawn with the same
percentages, one for each item in order. They lie between 0 and 100 too, a greatest item has exactly
100, and if no item has a size then all have 0. If the items change places, then so do the exact
percentages and the bars and columns, and none of them changes otherwise.

**Proof sketch.** The greatest size is the least bound (`greatest_le_iff`): so exact percentages are
in proportion (`scales_percentages`), and the order makes no difference (`greatest_perm`,
`percentOf_perm`). A quotient that is at most one is rounded to one that is at most one, and the
greatest magnitude divided by itself is one (`measured_percentOf`). -/
theorem items_in_proportion (items : List Item) :
    Scales (items.map Item.size) (percentages (items.map Item.size)) ∧
      (∀ a b : Item, a.size < b.size ↔ a.magnitude < b.magnitude) ∧
      Measured items (percentOf items) ∧
      ∀ items' : List Item, items'.Perm items →
        DrawnWith items' (percentOf items) ∧
          percentages (items'.map Item.size) =
            items'.map fun item => scale item.size (greatest (items.map Item.size)) := by
  refine ⟨scales_percentages ?_, size_lt_size_iff, measured_percentOf items,
    fun items' h => ⟨?_, ?_⟩⟩
  · rw [List.forall_mem_map]
    exact fun item _ => item.size_nonneg
  · rw [← percentOf_perm h]
    exact drawnWith_percentOf items'
  · rw [percentages, greatest_perm (h.map Item.size), List.map_map]
    rfl

end Chart

end Placard
