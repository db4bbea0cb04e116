import Placard.Proofs.Decimal.Exact
import Placard.Proofs.Drawing.Entries

set_option relaxedAutoImplicit false
set_option autoImplicit false

/-!
# Slices around a circle

The slices of a pie lie side by side, and together they make a full turn. The arithmetic of the
slices is the same for every number type: with real numbers it is exact, and with 64-bit numbers it
is what is drawn. This file shows the former for the sizes that the magnitudes of the items stand
for, and for the latter what rounding does not touch.

## Main definitions

* `Placard.Item.size`: the exact size with which a chart draws an item.
* `Placard.Chart.Tiles`: slices lie side by side around the circle, in proportion to their sizes.
* `Placard.Chart.LaidOut`: wedges are drawn side by side, for each item in order.

## Main results

* `Placard.Chart.tiles_slices`: exact slices tile the circle.
* `Placard.Chart.laidOut_wedges`: what is drawn lies side by side, and a single item makes a full
  turn.
* `Placard.Chart.map_toSlice_wedges`: the wedges are the slices of the magnitudes.
* `Placard.Chart.abs_exactValue_halfTurn_sub_pi_lt`: half a turn is the 64-bit number next to `π`.
* `Placard.Chart.pie_tiles_circle`: all of it, for the items of a pie.
-/

namespace Placard

/-! ## Slices side by side -/

namespace Slice

section Tile

variable {α : Type} [Add α] (start : α) (sweeps : List α)

lemma map_sweep_tile : (tile start sweeps).map (·.sweep) = sweeps := by
  induction sweeps generalizing start with
  | nil => rfl
  | cons sweep sweeps ih => rw [tile, List.map_cons, ih]

lemma start_of_head?_tile {s : Slice α} (h : (tile start sweeps).head? = some s) :
    s.start = start := by
  cases sweeps with
  | nil => cases h
  | cons sweep sweeps =>
    obtain rfl := Option.some.inj h
    rfl

/-- Each slice starts where the one before it ends. -/
lemma isChain_tile : (tile start sweeps).IsChain fun s t => t.start = s.finish := by
  induction sweeps generalizing start with
  | nil => exact .nil
  | cons sweep sweeps ih =>
    rw [tile, List.isChain_cons]
    exact ⟨fun t ht => start_of_head?_tile _ _ ht, ih _⟩

end Tile

/-- Behind empty slices only, a slice starts where the first one does. -/
lemma start_tile_of_zeros {α : Type} [Add α] [OfNat α 0] {start : α} (hstart : start + 0 = start)
    (sweeps : List α) {i : Nat} {s : Slice α} (hzeros : ∀ x ∈ sweeps.take i, x = 0)
    (h : (tile start sweeps)[i]? = some s) : s.start = start := by
  induction sweeps generalizing i with
  | nil => cases h
  | cons sweep sweeps ih =>
    cases i with
    | zero =>
      obtain rfl := Option.some.inj h
      rfl
    | succ i =>
      rw [List.take_succ_cons, List.forall_mem_cons] at hzeros
      rw [tile, hzeros.1, hstart] at h
      exact ih hzeros.2 h

/-- A slice starts behind the sweeps of all those before it. -/
lemma start_tile (start : ℝ) (sweeps : List ℝ) {i : Nat} {s : Slice ℝ}
    (h : (tile start sweeps)[i]? = some s) : s.start = start + (sweeps.take i).sum := by
  induction sweeps generalizing start i with
  | nil => cases h
  | cons sweep sweeps ih =>
    cases i with
    | zero =>
      obtain rfl := Option.some.inj h
      rw [List.take_zero, List.sum_nil, add_zero]
    | succ i => rw [ih (start + sweep) h, List.take_succ_cons, List.sum_cons, add_assoc]

end Slice

namespace Chart

/-! ## Exact slices -/

/-- Whether slices lie side by side around the circle, in proportion to the sizes, where `pi` is
half a turn. -/
structure Tiles (pi start : ℝ) (sizes : List ℝ) (slices : List (Slice ℝ)) : Prop where
  /-- There is one for each size. -/
  length : slices.length = sizes.length
  /-- Each starts behind the sweeps of those before it. -/
  starts : ∀ (i : Nat) (s : Slice ℝ), slices[i]? = some s →
    s.start = start + ((slices.take i).map (·.sweep)).sum
  /-- So it starts where the one before it ends. -/
  chain : slices.IsChain fun s t => t.start = s.finish
  /-- No slice goes backwards. -/
  nonneg : ∀ s ∈ slices, 0 ≤ s.sweep
  /-- The sweeps are in proportion to the sizes. -/
  proportional : ∃ c, 0 ≤ c ∧ slices.map (·.sweep) = sizes.map (c * ·)
  /-- Nothing takes nothing. -/
  zero : ∀ (i : Nat) (s : Slice ℝ), sizes[i]? = some 0 → slices[i]? = some s → s.sweep = 0
  /-- All slices together make a full turn, if there is something to show. -/
  full : (∃ a ∈ sizes, 0 < a) → (slices.map (·.sweep)).sum = 2 * pi
  /-- If there is not, then no slice is left. -/
  empty : (∀ a ∈ sizes, a = 0) → ∀ s ∈ slices, s.sweep = 0
  /-- A single size makes a full turn, and is drawn as one. -/
  single : ∀ before a after, sizes = before ++ a :: after → 0 < a →
    (∀ b ∈ before ++ after, b = 0) →
      ∃ s : Slice ℝ, slices[before.length]? = some s ∧ s.sweep = 2 * pi ∧
        ∀ slack, 0 ≤ slack → s.isFullTurn pi slack = true

section Exact

variable {pi start c : ℝ} {sizes before after : List ℝ} {a : ℝ} {drawn : List (Slice ℝ)}
  {s : Slice ℝ} {i : Nat}

lemma total_eq_sum (sizes : List ℝ) : total sizes = sizes.sum := List.sum_eq_foldl.symm

/-- The sweeps are the sizes, scaled so that their sum is a full turn. -/
lemma exists_scale (hpi : 0 ≤ pi) (start : ℝ) (hsizes : ∀ a ∈ sizes, 0 ≤ a) :
    ∃ c, 0 ≤ c ∧ (slices pi start sizes).map (·.sweep) = sizes.map (c * ·) ∧
      ((∃ a ∈ sizes, 0 < a) → c * sizes.sum = 2 * pi) := by
  rw [slices, Slice.map_sweep_tile, total_eq_sum]
  by_cases hpos : 0 < sizes.sum
  · refine ⟨2 * pi / sizes.sum, by positivity, List.map_congr_left fun a _ => ?_, fun _ => ?_⟩
    · rw [sweep, if_pos hpos]
      ring
    · exact div_mul_cancel₀ _ hpos.ne'
  · refine ⟨0, le_refl 0, List.map_congr_left fun a _ => ?_, ?_⟩
    · rw [sweep, if_neg hpos, zero_mul]
    · rintro ⟨a, ha, hlt⟩
      exact absurd (hlt.trans_le (List.single_le_sum hsizes a ha)) hpos

lemma sweep_of_getElem? (h : drawn.map (·.sweep) = sizes.map (c * ·)) (hs : drawn[i]? = some s) :
    ∃ a, sizes[i]? = some a ∧ s.sweep = c * a := by
  have hat := congrArg (·[i]?) h
  simp only [List.getElem?_map, hs, Option.map_some] at hat
  obtain ⟨a, ha, heq⟩ := Option.map_eq_some_iff.mp hat.symm
  exact ⟨a, ha, heq.symm⟩

lemma sweep_of_mem (h : drawn.map (·.sweep) = sizes.map (c * ·)) (hs : s ∈ drawn) :
    ∃ a ∈ sizes, s.sweep = c * a := by
  obtain ⟨i, hi⟩ := List.mem_iff_getElem?.mp hs
  obtain ⟨a, ha, heq⟩ := sweep_of_getElem? h hi
  exact ⟨a, List.mem_of_getElem? ha, heq⟩

lemma sum_of_single (h : ∀ b ∈ before ++ after, b = 0) : (before ++ a :: after).sum = a := by
  have hbefore : before.sum = 0 :=
    List.sum_eq_zero fun b hb => h b (List.mem_append_left _ hb)
  have hafter : after.sum = 0 :=
    List.sum_eq_zero fun b hb => h b (List.mem_append_right _ hb)
  rw [List.sum_append, List.sum_cons, hbefore, hafter, zero_add, add_zero]

lemma isFullTurn_of_sweep_eq (h : s.sweep = 2 * pi) {slack : ℝ} (hslack : 0 ≤ slack) :
    s.isFullTurn pi slack = true := by
  rw [Slice.isFullTurn, h, decide_eq_true_iff]
  linarith

/-- A single size is scaled to a full turn. -/
lemma exists_slice_of_single (hscaled : drawn.map (·.sweep) = (before ++ a :: after).map (c * ·))
    (hturn : c * (before ++ a :: after).sum = 2 * pi) (h : ∀ b ∈ before ++ after, b = 0) :
    ∃ s : Slice ℝ, drawn[before.length]? = some s ∧ s.sweep = 2 * pi := by
  have hlength := congrArg List.length hscaled
  rw [List.length_map, List.length_map, List.length_append, List.length_cons] at hlength
  have hs := List.getElem?_eq_getElem (l := drawn) (i := before.length) (by omega)
  obtain ⟨b, hb, hsweep⟩ := sweep_of_getElem? hscaled hs
  rw [List.getElem?_append_right (Nat.le_refl _), Nat.sub_self] at hb
  obtain rfl := Option.some.inj hb
  rw [sum_of_single h] at hturn
  exact ⟨_, hs, hsweep.trans hturn⟩

/-- **Exact slices tile the circle.**

**Proof sketch.** Each sweep is the size times one factor, which is a full turn by the total or zero
(`exists_scale`). So the sum of the sweeps is the factor times the total. -/
theorem tiles_slices (hpi : 0 ≤ pi) (hsizes : ∀ a ∈ sizes, 0 ≤ a) :
    Tiles pi start sizes (slices pi start sizes) := by
  obtain ⟨c, hc, hscaled, hturn⟩ := exists_scale hpi start hsizes
  refine
    { length := ?length, starts := ?starts, chain := Slice.isChain_tile _ _, nonneg := ?nonneg
      proportional := ⟨c, hc, hscaled⟩, zero := ?zero, full := ?full, empty := ?empty
      single := ?single }
  case length =>
    rw [slices, Drawing.length_tile, List.length_map]
  case starts =>
    intro i s hs
    rw [List.map_take, slices, Slice.map_sweep_tile]
    exact Slice.start_tile start _ hs
  case nonneg =>
    intro s hs
    obtain ⟨a, ha, heq⟩ := sweep_of_mem hscaled hs
    rw [heq]
    exact mul_nonneg hc (hsizes a ha)
  case zero =>
    intro i s hzero hs
    obtain ⟨a, ha, heq⟩ := sweep_of_getElem? hscaled hs
    obtain rfl := Option.some.inj (hzero.symm.trans ha)
    rw [heq, mul_zero]
  case full =>
    intro hpos
    rw [hscaled, List.sum_map_mul_left, List.map_id']
    exact hturn hpos
  case empty =>
    intro hzero s hs
    obtain ⟨a, ha, heq⟩ := sweep_of_mem hscaled hs
    rw [heq, hzero a ha, mul_zero]
  case single =>
    intro before a after heq hpos hzero
    have hmem : a ∈ sizes := by
      rw [heq]
      exact List.mem_append_right _ List.mem_cons_self
    have hwhole := hturn ⟨a, hmem, hpos⟩
    rw [heq] at hscaled hwhole
    obtain ⟨s, hs, hfull⟩ := exists_slice_of_single hscaled hwhole hzero
    rw [← heq] at hs
    exact ⟨s, hs, hfull, fun slack hslack => isFullTurn_of_sweep_eq hfull hslack⟩

end Exact

end Chart

/-! ## The sizes of items -/

namespace Item

section Size

variable {item : Item}

/-- The exact size with which a chart draws the item. -/
noncomputable def size (item : Item) : ℝ := exactValue item.magnitude

lemma isFinite_magnitude (item : Item) : item.magnitude.isFinite = true := by
  rw [magnitude]
  split
  · next x =>
    split
    · next h =>
      rw [Bool.and_eq_true] at h
      exact h.1
    · rfl
  · rfl

/-- A size that is not above zero is zero. -/
lemma magnitude_eq_zero (h : ¬ 0 < item.magnitude) : item.magnitude = 0 := by
  rw [magnitude] at h ⊢
  split
  · next x hx =>
    rw [hx] at h
    dsimp only at h
    split
    · next hsized =>
      rw [if_pos hsized] at h
      rw [Bool.and_eq_true, decide_eq_true_iff] at hsized
      exact absurd hsized.2 h
    · rfl
  · rfl

lemma size_pos_iff : 0 < item.size ↔ 0 < item.magnitude :=
  exactValue_pos_iff item.isFinite_magnitude

lemma size_eq_zero (h : ¬ 0 < item.magnitude) : item.size = 0 := by
  rw [size, magnitude_eq_zero h, exactValue_zero]

lemma size_nonneg (item : Item) : 0 ≤ item.size := by
  by_cases h : 0 < item.magnitude
  · exact (size_pos_iff.mpr h).le
  · exact (size_eq_zero h).ge

end Size

end Item

namespace Chart

/-! ## Slices as they are drawn -/

/-- The outline of a slice that makes a full turn from the top: two arcs, each of half a turn. -/
def circlePath : String :=
  "M 0 0 L " ++ (Point.onUnitCircle top).text ++
    " A 1 1 0 0 1 " ++ (Point.onUnitCircle (top + halfTurn)).text ++
    " A 1 1 0 0 1 " ++ (Point.onUnitCircle top).text ++ " Z"

/-- Whether wedges are drawn side by side, for each item in order. -/
structure LaidOut (items : List Item) (fill : Nat → String) (wedges : List Wedge) : Prop where
  /-- There is one for each item. -/
  length : wedges.length = items.length
  /-- Each has the color for its index. -/
  fills : wedges.map (·.fill) = (List.range items.length).map fill
  /-- The first starts at the top. -/
  first : ∀ w, wedges.head? = some w → w.start = top
  /-- Each other starts exactly where the one before it ends. -/
  chain : wedges.IsChain fun v w => w.start = v.finish
  /-- An item without a size takes nothing. -/
  zero : ∀ (i : Nat) (item : Item) (w : Wedge), items[i]? = some item → wedges[i]? = some w →
    ¬ 0 < item.magnitude → w.sweep = 0
  /-- There is no division by a total that is not above zero. -/
  guarded : ¬ 0 < total (items.map Item.magnitude) → ∀ w ∈ wedges, w.sweep = 0
  /-- A single item with a size makes a full turn, drawn as two halves. -/
  single : ∀ before item after, items = before ++ item :: after → 0 < item.magnitude →
    (∀ other ∈ before ++ after, ¬ 0 < other.magnitude) →
      ∃ w : Wedge, wedges[before.length]? = some w ∧ w.sweep = 2 * halfTurn ∧ w.path = circlePath

section Drawn

variable {items before after : List Item} {item : Item} {x y : Float} {xs : List Float}

lemma sweep_zero (total : Float) : sweep halfTurn total 0 = 0 := by
  rw [sweep]
  split
  · next h =>
    rw [zero_div_of_pos h]
    decide +kernel
  · rfl

lemma sweep_self (hfinite : x.isFinite = true) (hpos : 0 < x) :
    sweep halfTurn x x = 2 * halfTurn := by
  rw [sweep, if_pos hpos, div_self_of_pos hfinite hpos]
  decide +kernel

/-- Zeros behind a number are not added to it. -/
lemma foldl_add_of_zeros (hx : x + 0 = x) (hzeros : ∀ y ∈ xs, y = 0) : xs.foldl (· + ·) x = x := by
  induction xs with
  | nil => rfl
  | cons y xs ih =>
    rw [List.forall_mem_cons] at hzeros
    rw [List.foldl_cons, hzeros.1, hx]
    exact ih hzeros.2

/-- The total of a single size is that size. -/
lemma total_of_single {ys : List Float} (hpos : 0 < x) (hxs : ∀ z ∈ xs, z = 0)
    (hys : ∀ z ∈ ys, z = 0) : total (xs ++ x :: ys) = x := by
  have hzero : (0 : Float) + 0 = 0 := by decide +kernel
  rw [total, List.foldl_append, foldl_add_of_zeros hzero hxs, List.foldl_cons, zero_add_of_pos hpos]
  exact foldl_add_of_zeros (add_zero_of_pos hpos) hys

/-- A full turn from the top is drawn as two halves. -/
lemma path_of_fullTurn {w : Wedge} (hstart : w.start = top) (hsweep : w.sweep = 2 * halfTurn) :
    w.path = circlePath := by
  have hfull : w.isFullTurn halfTurn fullTurnSlack = true := by
    rw [Slice.isFullTurn, hsweep]
    decide +kernel
  have hjoin : ∀ a b c d e : String, " ".intercalate ([a, b] ++ [c, d] ++ [e]) =
      a ++ " " ++ b ++ " " ++ c ++ " " ++ d ++ " " ++ e := fun _ _ _ _ _ => rfl
  rw [Wedge.path, Wedge.arcs, if_pos hfull, hstart, hjoin, circlePath, String.ext_iff]
  simp [Wedge.arcTo]

variable (items) (fill : Nat → String)

/-- The wedges are the slices of the magnitudes, with their colors. -/
lemma map_toSlice_wedges : (wedges items fill).map Wedge.toSlice =
    slices halfTurn top (items.map Item.magnitude) := by
  refine List.ext_getElem? fun i => ?_
  rw [wedges, List.getElem?_map, List.getElem?_mapIdx, Option.map_map]
  exact congrFun Option.map_id _

lemma map_fill_wedges : (wedges items fill).map (·.fill) = (List.range items.length).map fill := by
  have hlength : (slices halfTurn top (items.map Item.magnitude)).length = items.length := by
    rw [slices, Drawing.length_tile, List.length_map, List.length_map]
  refine List.ext_getElem? fun i => ?_
  rw [wedges, List.getElem?_map, List.getElem?_mapIdx, Option.map_map, List.getElem?_map]
  by_cases hi : i < items.length
  · rw [List.getElem?_eq_getElem (hlength ▸ hi), List.getElem?_range hi]
    rfl
  · rw [List.getElem?_eq_none (by omega), List.getElem?_eq_none (by simpa using hi)]
    rfl

/-- The slices of the items have the sweeps of their magnitudes. -/
lemma map_sweep_wedges : (wedges items fill).map (·.sweep) =
    items.map fun a => sweep halfTurn (total (items.map Item.magnitude)) a.magnitude := by
  have hmap := congrArg (List.map (·.sweep)) (map_toSlice_wedges items fill)
  rw [slices, Slice.map_sweep_tile, List.map_map, List.map_map] at hmap
  exact hmap

lemma sweep_of_getElem?_wedges {i : Nat} {w : Wedge} (hitem : items[i]? = some item)
    (hw : (wedges items fill)[i]? = some w) :
    w.sweep = sweep halfTurn (total (items.map Item.magnitude)) item.magnitude := by
  have hat := congrArg (·[i]?) (map_sweep_wedges items fill)
  simp only [List.getElem?_map, hw, hitem, Option.map_some] at hat
  exact Option.some.inj hat

/-- The slice of a single item with a size starts at the top, and makes a full turn. -/
lemma exists_wedge_of_single {before after : List Item} (hpos : 0 < item.magnitude)
    (hzero : ∀ other ∈ before ++ after, ¬ 0 < other.magnitude) :
    ∃ w, (wedges (before ++ item :: after) fill)[before.length]? = some w ∧ w.start = top ∧
      w.sweep = 2 * halfTurn := by
  have hzeros : ∀ others : List Item, (∀ a ∈ others, a ∈ before ++ after) →
      ∀ x ∈ others.map Item.magnitude, x = 0 := by
    intro others hothers x hx
    obtain ⟨a, ha, rfl⟩ := List.mem_map.mp hx
    exact Item.magnitude_eq_zero (hzero a (hothers a ha))
  have hbefore := hzeros before fun a ha => List.mem_append_left _ ha
  have hafter := hzeros after fun a ha => List.mem_append_right _ ha
  have htotal : total ((before ++ item :: after).map Item.magnitude) = item.magnitude := by
    rw [List.map_append, List.map_cons, total_of_single hpos hbefore hafter]
  have hitem : (before ++ item :: after)[before.length]? = some item := by
    rw [List.getElem?_append_right (Nat.le_refl _), Nat.sub_self]
    rfl
  have hlength : before.length < (wedges (before ++ item :: after) fill).length := by
    rw [Drawing.length_wedges]
    exact (List.getElem?_eq_some_iff.mp hitem).1
  have hw := List.getElem?_eq_getElem hlength
  refine ⟨_, hw, ?_, ?_⟩
  · have hslice := congrArg (·[before.length]?)
      (map_toSlice_wedges (before ++ item :: after) fill)
    simp only [List.getElem?_map, hw, Option.map_some] at hslice
    have htop : top + 0 = top := by decide +kernel
    refine Slice.start_tile_of_zeros htop _ ?_ hslice.symm
    rw [List.map_append, List.map_append, ← List.length_map (f := Item.magnitude),
      ← List.length_map (f := sweep halfTurn _), List.take_left, List.forall_mem_map]
    intro x hx
    rw [hbefore x hx, sweep_zero]
  · rw [sweep_of_getElem?_wedges _ fill hitem hw, htotal,
      sweep_self item.isFinite_magnitude hpos]

/-- **What is drawn lies side by side**, and a single item with a size makes a full turn.

**Proof sketch.** The wedges are slices with colors (`map_toSlice_wedges`), and the slices are laid
side by side. The total of a single size is that size, by which it is divided to one. -/
theorem laidOut_wedges : LaidOut items fill (wedges items fill) := by
  have hchain := Slice.isChain_tile top
    ((items.map Item.magnitude).map (sweep halfTurn (total (items.map Item.magnitude))))
  rw [← slices, ← map_toSlice_wedges items fill, List.isChain_map] at hchain
  refine ⟨Drawing.length_wedges items fill, map_fill_wedges items fill, ?_, hchain, ?_, ?_, ?_⟩
  · intro w hw
    have hhead := congrArg List.head? (map_toSlice_wedges items fill)
    rw [List.head?_map, hw, Option.map_some] at hhead
    exact Slice.start_of_head?_tile _ _ hhead.symm
  · intro i item w hitem hw hsize
    rw [sweep_of_getElem?_wedges items fill hitem hw, Item.magnitude_eq_zero hsize, sweep_zero]
  · intro htotal w hw
    obtain ⟨i, hi⟩ := List.mem_iff_getElem?.mp hw
    have hlength := (List.getElem?_eq_some_iff.mp hi).1
    rw [Drawing.length_wedges] at hlength
    rw [sweep_of_getElem?_wedges items fill (List.getElem?_eq_getElem hlength) hi, sweep,
      if_neg htotal]
  · rintro before item after rfl hpos hzero
    obtain ⟨w, hw, hstart, hsweep⟩ := exists_wedge_of_single fill hpos hzero
    exact ⟨w, hw, hsweep, path_of_fullTurn hstart hsweep⟩

end Drawn

/-! ## Half a turn -/

lemma exactValue_halfTurn : exactValue halfTurn = 7074237752028440 / 2 ^ 51 := by
  have hread : Binary.ofFloat halfTurn =
      .finite { negative := false, mantissa := 7074237752028440, exponent := -51 } := by
    decide +kernel
  rw [exactValue, hread]
  norm_num [Binary.value]

/-- The angle of the first edge of a pie is exactly a quarter of a turn before the zero angle. -/
lemma exactValue_top : exactValue top = -exactValue halfTurn / 2 := by
  have hread : Binary.ofFloat top =
      .finite { negative := true, mantissa := 7074237752028440, exponent := -52 } := by
    decide +kernel
  rw [exactValue, hread, exactValue_halfTurn]
  norm_num [Binary.value]

/-- Half a turn is the 64-bit number next to `π`: these numbers lie `1 / 2 ^ 51` apart there. -/
lemma abs_exactValue_halfTurn_sub_pi_lt : |exactValue halfTurn - Real.pi| < 1 / 2 ^ 52 := by
  have hlow := Real.pi_gt_d20
  have hhigh := Real.pi_lt_d20
  rw [exactValue_halfTurn, abs_lt]
  constructor <;> linarith

/-! ## The slices of a pie -/

/-- **The slices of a pie tile the circle.** There is one wedge for each item, in order and with the
color for its index; the first starts at the top, and each other exactly where the one before it
ends. The wedges are the slices of the magnitudes, from the top and with the 64-bit number next to
`π` for half a turn. With the exact sizes of the items, the same arithmetic gives slices in
proportion to the sizes, none of them below zero. Together they make a full turn if some item has a
size, and else all of them are empty. A single item with a size makes the full turn, exactly and as
it is drawn, and is drawn as two halves.

**Proof sketch.** Exact slices are the sizes, scaled by a full turn over their total
(`tiles_slices`). What is drawn has the same form (`map_toSlice_wedges`), and a single size is the
total (`laidOut_wedges`). -/
theorem pie_tiles_circle (items : List Item) (fill : Nat → String) :
    LaidOut items fill (wedges items fill) ∧
      (wedges items fill).map Wedge.toSlice = slices halfTurn top (items.map Item.magnitude) ∧
      |exactValue halfTurn - Real.pi| < 1 / 2 ^ 52 ∧ exactValue top = -exactValue halfTurn / 2 ∧
      Tiles Real.pi (-Real.pi / 2) (items.map Item.size)
        (slices Real.pi (-Real.pi / 2) (items.map Item.size)) ∧
      (∀ item : Item, 0 ≤ item.size ∧ (0 < item.size ↔ 0 < item.magnitude)) := by
  refine ⟨laidOut_wedges items fill, map_toSlice_wedges items fill,
    abs_exactValue_halfTurn_sub_pi_lt, exactValue_top, tiles_slices Real.pi_pos.le ?_,
    fun item => ⟨item.size_nonneg, Item.size_pos_iff⟩⟩
  rw [List.forall_mem_map]
  exact fun item _ => item.size_nonneg

end Chart

end Placard
