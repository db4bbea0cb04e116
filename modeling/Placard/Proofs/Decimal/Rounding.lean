import Placard.Proofs.Decimal.Canonical
import Placard.Proofs.Decimal.Nearest

set_option relaxedAutoImplicit false
set_option autoImplicit false

/-!
# Rounding

Sums, products and quotients of 64-bit numbers are the exact ones, rounded to the nearest multiple
of a unit: the unit leaves 53 bits, and is never less than the least one. From this alone follow the
bounds that the charts need. A number that is not too small stays above zero, and one that lies
below a 64-bit number does not get above it.

## Main definitions

* `Placard.Truncates`: a mantissa and the bits behind it are a number, cut off.
* `Placard.UnitOf`: the unit to which a number is rounded.
* `Placard.RoundsTo`: the 64-bit number to which a number above zero is rounded.

## Main results

* `Placard.roundsTo_roundWithAccuracy`: rounding gives the nearest multiple of the unit.
* `Placard.roundsTo_add`, `Placard.roundsTo_mul`, `Placard.roundsTo_div`: so do the operations.
* `Placard.RoundsTo.pos`, `Placard.RoundsTo.le_of_le`: bounds on what comes out.
-/

namespace Placard

open Float.Model Float.Model.UnpackedFloat

/-! ## Bits behind a mantissa -/

/-- Whether a mantissa and the two residual bits are a number, cut off behind the mantissa. -/
@[mk_iff]
structure Truncates (em : ExtendedMantissa) (z : ℝ) : Prop where
  /-- The first bit tells whether a half is left, the second one whether there is more. -/
  bits : match em.roundBit, em.stickyBit with
    | false, false => z = em.mantissa
    | false, true => em.mantissa < z ∧ z < em.mantissa + 1 / 2
    | true, false => z = em.mantissa + 1 / 2
    | true, true => em.mantissa + 1 / 2 < z ∧ z < em.mantissa + 1

section Truncates

variable {em : ExtendedMantissa} {z : ℝ}

lemma Truncates.le (h : Truncates em z) : (em.mantissa : ℝ) ≤ z := by
  obtain ⟨m, round, sticky⟩ := em
  cases round <;> cases sticky <;> simp only [truncates_iff] at h ⊢ <;> linarith

lemma Truncates.lt (h : Truncates em z) : z < em.mantissa + 1 := by
  obtain ⟨m, round, sticky⟩ := em
  cases round <;> cases sticky <;> simp only [truncates_iff] at h ⊢ <;> linarith

/-- What was a residual bit stays one when a further bit is cut off. -/
lemma Truncates.shiftRightOne (h : Truncates em z) : Truncates em.shiftRightOne (z / 2) := by
  obtain ⟨m, round, sticky⟩ := em
  have hhalves : (m : ℝ) = 2 * (m / 2 : ℕ) + (m % 2 : ℕ) := by
    exact_mod_cast (Nat.div_add_mod m 2).symm
  obtain hbit | hbit := Nat.mod_two_eq_zero_or_one m
  all_goals
    rw [hbit] at hhalves
    cases round <;> cases sticky <;>
      simp only [truncates_iff, ExtendedMantissa.shiftRightOne, hbit] at h ⊢ <;> grind

lemma Truncates.shiftRight (h : Truncates em z) (n : ℕ) : Truncates (em >>> n) (z / 2 ^ n) := by
  change Truncates (n.repeat ExtendedMantissa.shiftRightOne em) _
  induction n with
  | zero => simpa [Nat.repeat] using h
  | succ n ih =>
    rw [Nat.repeat, pow_succ, ← div_div]
    exact ih.shiftRightOne

/-- The rounded mantissa is the nearest one. -/
lemma Truncates.abs_rounded_le (h : Truncates em z) : |(em.roundedMantissa : ℝ) - z| ≤ 1 / 2 := by
  obtain ⟨m, round, sticky⟩ := em
  have hbit : ((m % 2 : ℕ) : ℝ) ≤ 1 := by exact_mod_cast Nat.le_of_lt_succ (Nat.mod_lt m two_pos)
  have hnonneg : (0 : ℝ) ≤ (m % 2 : ℕ) := Nat.cast_nonneg _
  rw [abs_le]
  cases round <;> cases sticky <;>
    simp only [truncates_iff, ExtendedMantissa.roundedMantissa, ExtendedMantissa.accuracy,
      Accuracy.roundToNearestEven, Nat.cast_add, Nat.cast_one] at h ⊢ <;>
    constructor <;> linarith

end Truncates

/-! ## Units -/

/-- A whole number near to one that is less than a half above another one is not above it. -/
lemma natCast_le_of_abs_le {r k : ℕ} {q : ℝ} (h : |(r : ℝ) - q| ≤ 1 / 2) (hq : q < k + 1 / 2) :
    r ≤ k := by
  have hlt : (r : ℝ) < (k + 1 : ℕ) := by
    push_cast
    rw [abs_le] at h
    linarith
  exact Nat.le_of_lt_succ (Nat.cast_lt.mp hlt)

/-- Whether `2 ^ t` is the unit to which `y` is rounded: it leaves 53 bits, or it is the least one
and leaves fewer. -/
structure UnitOf (y : ℝ) (t : ℤ) : Prop where
  /-- The unit is not below the least one. -/
  least_le : -1074 ≤ t
  /-- It leaves at most 53 bits. -/
  lt : y < 2 ^ (t + 53)
  /-- It leaves less than 53 bits only if it is the least one. -/
  full : 2 ^ (t + 52) ≤ y ∨ t = -1074

section Unit

variable {y : ℝ} {m : ℕ} {e t : ℤ}

/-- The unit of a number is told from its bits, if there are enough of them. -/
lemma unitOf_targetExponent (hle : (m : ℝ) * 2 ^ e ≤ y) (hlt : y < (m + 1) * 2 ^ e)
    (hbits : e ≤ Format.binary64.targetExponent (totalExponent m e)) :
    UnitOf y (Format.binary64.targetExponent (totalExponent m e)) := by
  rw [targetExponent_eq, totalExponent] at hbits ⊢
  have hlog : ((m : ℝ) + 1) ≤ 2 ^ (m.log2 + 1 : ℤ) := by exact_mod_cast Nat.lt_log2_self (n := m)
  refine ⟨le_max_right _ _, ?_, ?_⟩
  · calc y < (m + 1) * 2 ^ e := hlt
      _ ≤ 2 ^ (m.log2 + 1 : ℤ) * 2 ^ e := by gcongr
      _ = 2 ^ (m.log2 + 1 + e) := (zpow_add₀ two_ne_zero _ _).symm
      _ ≤ _ := zpow_le_zpow_right₀ one_le_two (by omega)
  · by_cases hleast : (m.log2 : ℤ) + 1 + e - 53 ≤ -1074
    · exact .inr (max_eq_right hleast)
    left
    have hm : m ≠ 0 := by
      rintro rfl
      rw [Nat.log2_zero] at hbits hleast
      omega
    have hself : (2 : ℝ) ^ (m.log2 : ℤ) ≤ m := by exact_mod_cast Nat.log2_self_le hm
    calc (2 : ℝ) ^ (max ((m.log2 : ℤ) + 1 + e - 53) (-1074) + 52) = 2 ^ ((m.log2 : ℤ) + e) := by
          congr 1
          omega
      _ = 2 ^ (m.log2 : ℤ) * 2 ^ e := zpow_add₀ two_ne_zero _ _
      _ ≤ m * 2 ^ e := by gcongr
      _ ≤ y := hle

/-- The nearest multiple of a unit has at most 53 bits, and all of them unless the unit is the least
one. -/
lemma UnitOf.bounds (h : UnitOf y t) {r : ℕ} (hr : |(r : ℝ) - y / 2 ^ t| ≤ 1 / 2) :
    r ≤ 2 ^ 53 ∧ (2 ^ 52 ≤ r ∨ t = -1074) := by
  have hunit : (0 : ℝ) < 2 ^ t := by positivity
  constructor
  · refine natCast_le_of_abs_le hr ?_
    have hlt : y / 2 ^ t < 2 ^ 53 := by
      rw [div_lt_iff₀ hunit, ← zpow_natCast, ← zpow_add₀ two_ne_zero, add_comm]
      exact h.lt
    push_cast
    linarith
  · refine h.full.imp_left fun hfull => ?_
    have hle : 2 ^ 52 ≤ y / 2 ^ t := by
      rw [le_div_iff₀ hunit, ← zpow_natCast, ← zpow_add₀ two_ne_zero, add_comm]
      exact hfull
    have hcast : ((2 ^ 52 : ℕ) : ℝ) < (r + 1 : ℕ) := by
      push_cast
      rw [abs_le] at hr
      linarith
    exact Nat.le_of_lt_succ (Nat.cast_lt.mp hcast)

end Unit

/-! ## Rounding -/

/-- Whether a 64-bit number is what `y` is rounded to: the nearest multiple of the unit of `y`, and
the infinite number if the multiple is too great. -/
inductive RoundsTo (y : ℝ) (x : Float) : Prop where
  /-- The unit is `2 ^ t`, and it is taken `r` times. -/
  | intro (t : ℤ) (r : ℕ) (unit : UnitOf y t) (near : |(r : ℝ) - y / 2 ^ t| ≤ 1 / 2)
    (value : r = 0 ∧ x = 0 ∨ ∃ m e, ∃ hm : 0 < m, Canonical m e ∧ (m : ℝ) * 2 ^ e = r * 2 ^ t ∧
      x = .ofModel (.pack (.finite .positive m e hm)))

section Round

variable {y : ℝ} {m : ℕ} {e t : ℤ} {accuracy : Accuracy}

/-- A mantissa is shifted to the unit without losing what is left behind it. -/
lemma truncates_shiftToTargetExponent
    (h : Truncates (ExtendedMantissa.ofMantissaAndAccuracy m accuracy) (y / 2 ^ e))
    (hbits : e ≤ Format.binary64.targetExponent (totalExponent m e)) :
    ∃ em, shiftToTargetExponent .binary64 m e accuracy =
        (em, Format.binary64.targetExponent (totalExponent m e)) ∧
      Truncates em (y / 2 ^ Format.binary64.targetExponent (totalExponent m e)) := by
  obtain ⟨n, hn⟩ := Int.le.dest hbits
  have hamount : (Format.binary64.targetExponent (totalExponent m e) - e).toNat = n := by omega
  refine ⟨ExtendedMantissa.ofMantissaAndAccuracy m accuracy >>> n, ?_, ?_⟩
  · unfold shiftToTargetExponent shiftToExponent
    dsimp only
    rw [hamount, hn]
  · rw [← hn, zpow_add₀ two_ne_zero, zpow_natCast, ← div_div]
    exact h.shiftRight n

/-- Rounding may have made one bit too many, which is a zero, and is shifted out. -/
lemma canonical_shiftToTargetExponent {r : ℕ} (hr : r ≤ 2 ^ 53) (hleast : -1074 ≤ t)
    (hfull : 2 ^ 52 ≤ r ∨ t = -1074) :
    Canonical (shiftToTargetExponent .binary64 r t .exact).1.mantissa
        (shiftToTargetExponent .binary64 r t .exact).2 ∧
      ((shiftToTargetExponent .binary64 r t .exact).1.mantissa : ℝ) *
        2 ^ (shiftToTargetExponent .binary64 r t .exact).2 = r * 2 ^ t := by
  unfold shiftToTargetExponent shiftToExponent
  dsimp only
  rw [mantissa_shiftRight, mantissa_ofMantissaAndAccuracy, targetExponent_eq, totalExponent]
  obtain hlt | rfl := Nat.lt_or_eq_of_le hr
  · have hcanonical : Canonical r t := ⟨hlt, hleast, hfull⟩
    have hlog := hcanonical.log2_le
    have hamount : (max ((r.log2 : ℤ) + 1 + t - 53) (-1074) - t).toNat = 0 := by omega
    rw [hamount, pow_zero, Nat.div_one, Int.natCast_zero, add_zero]
    exact ⟨hcanonical, rfl⟩
  · have hamount : (max (((2 ^ 53 : ℕ).log2 : ℤ) + 1 + t - 53) (-1074) - t).toNat = 1 := by
      rw [Nat.log2_two_pow]
      omega
    rw [hamount, Int.natCast_one, pow_one]
    refine ⟨⟨by norm_num, by omega, .inl (by norm_num)⟩, ?_⟩
    rw [zpow_add₀ two_ne_zero]
    norm_num
    ring

/-- **Rounding gives the nearest multiple of the unit**, if there are enough bits to round. -/
theorem roundsTo_roundWithAccuracy
    (h : Truncates (ExtendedMantissa.ofMantissaAndAccuracy m accuracy) (y / 2 ^ e))
    (hbits : e ≤ Format.binary64.targetExponent (totalExponent m e)) :
    RoundsTo y (.ofModel (.pack (roundWithAccuracy .binary64 .positive m e accuracy))) := by
  have hunit : (0 : ℝ) < 2 ^ e := by positivity
  have hle := h.le
  have hlt := h.lt
  rw [mantissa_ofMantissaAndAccuracy, le_div_iff₀ hunit] at hle
  rw [mantissa_ofMantissaAndAccuracy, div_lt_iff₀ hunit] at hlt
  have hunitOf := unitOf_targetExponent hle hlt hbits
  obtain ⟨em, hfirst, hem⟩ := truncates_shiftToTargetExponent h hbits
  generalize Format.binary64.targetExponent (totalExponent m e) = t at *
  obtain ⟨hbound, hfull⟩ := hunitOf.bounds hem.abs_rounded_le
  obtain ⟨hcanonical, hvalue⟩ := canonical_shiftToTargetExponent hbound hunitOf.least_le hfull
  refine ⟨t, em.roundedMantissa, hunitOf, hem.abs_rounded_le, ?_⟩
  unfold roundWithAccuracy
  rw [hfirst]
  dsimp only
  split
  · next hzero =>
    rw [hzero, Nat.cast_zero, zero_mul, eq_comm, mul_eq_zero_iff_right (by positivity)] at hvalue
    exact .inl ⟨Nat.cast_eq_zero.mp hvalue, rfl⟩
  · next hne => exact .inr ⟨_, _, Nat.pos_of_ne_zero hne, hcanonical, hvalue, rfl⟩

lemma log2_shiftLeft (hm : 0 < m) (k : ℕ) : (m <<< k).log2 = m.log2 + k := by
  have hpos : 0 < m <<< k := by
    rw [Nat.shiftLeft_eq]
    positivity
  rw [Nat.log2_eq_iff hpos.ne', Nat.shiftLeft_eq, Nat.add_right_comm, pow_add, pow_add _ _ k]
  exact ⟨Nat.mul_le_mul_right _ (Nat.log2_self_le hm.ne'),
    Nat.mul_lt_mul_of_pos_right Nat.lt_log2_self (Nat.two_pow_pos k)⟩

/-- An exact number is rounded to the nearest multiple of its unit. -/
lemma roundsTo_round (hm : 0 < m) (e : ℤ) :
    RoundsTo (m * 2 ^ e) (.ofModel (.pack (UnpackedFloat.round .binary64 .positive m e))) := by
  unfold UnpackedFloat.round decreaseExponent
  dsimp only
  generalize hk : (e - Format.binary64.targetExponent (totalExponent m e)).toNat = k
  have hlog := log2_shiftLeft hm k
  have htotal : totalExponent (m <<< k) (e - k) = totalExponent m e := by
    rw [totalExponent, totalExponent, hlog]
    push_cast
    ring
  refine roundsTo_roundWithAccuracy ⟨?_⟩ ?_
  · show (m : ℝ) * 2 ^ e / 2 ^ (e - k) = (m <<< k : ℕ)
    rw [zpow_sub₀ two_ne_zero, Nat.shiftLeft_eq, zpow_natCast]
    push_cast
    field_simp
  · rw [htotal]
    omega

/-! ### Operations -/

variable {x z : Float}

/-- A sum is rounded to the nearest multiple of its unit. -/
theorem roundsTo_add (hx : x.isFinite = true) (hz : z.isFinite = true) (hposx : 0 < x)
    (hposz : 0 < z) : RoundsTo (exactValue x + exactValue z) (x + z) := by
  obtain ⟨m, e, hm, hux, -, -, hvx⟩ := exists_unpack_of_pos hx hposx
  obtain ⟨n, f, hn, huz, -, -, hvz⟩ := exists_unpack_of_pos hz hposz
  rw [add_eq_pack, hux, huz, hvx, hvz]
  obtain ⟨j, hj⟩ := Int.le.dest (min_le_left e f)
  obtain ⟨k, hk⟩ := Int.le.dest (min_le_right e f)
  generalize hleast : min e f = least at hj hk
  subst hj hk
  have hsum : 0 < m <<< j + n <<< k := by
    rw [Nat.shiftLeft_eq, Nat.shiftLeft_eq]
    positivity
  have hadd : UnpackedFloat.add .binary64 (.finite .positive m (least + j) hm)
      (.finite .positive n (least + k) hn) =
        UnpackedFloat.round .binary64 .positive (m <<< j + n <<< k) least := by
    have hcompare : compare ((m <<< j : ℕ) + (n <<< k : ℕ) : ℤ) 0 = .gt :=
      Int.compare_eq_gt.mpr (by exact_mod_cast hsum)
    unfold UnpackedFloat.add decreaseExponent
    dsimp only
    rw [hleast, add_sub_cancel_left, add_sub_cancel_left, Int.toNat_natCast, Int.toNat_natCast]
    unfold UnpackedFloat.normalize
    dsimp only [Sign.apply]
    rw [hcompare]
    rfl
  have hvalue : (m : ℝ) * 2 ^ (least + j : ℤ) + n * 2 ^ (least + k : ℤ) =
      (m <<< j + n <<< k : ℕ) * 2 ^ least := by
    rw [zpow_add₀ two_ne_zero, zpow_add₀ two_ne_zero, Nat.shiftLeft_eq, Nat.shiftLeft_eq]
    push_cast
    rw [zpow_natCast, zpow_natCast]
    ring
  rw [hadd, hvalue]
  exact roundsTo_round hsum least

/-- A product is rounded to the nearest multiple of its unit. -/
theorem roundsTo_mul (hx : x.isFinite = true) (hz : z.isFinite = true) (hposx : 0 < x)
    (hposz : 0 < z) : RoundsTo (exactValue x * exactValue z) (x * z) := by
  obtain ⟨m, e, hm, hux, hcx, -, hvx⟩ := exists_unpack_of_pos hx hposx
  obtain ⟨n, f, hn, huz, hcz, -, hvz⟩ := exists_unpack_of_pos hz hposz
  have hmul : x * z = .ofModel (.pack (roundWithAccuracy .binary64 .positive (m * n) (e + f)
      .exact)) := by
    rw [mul_eq_pack, hux, huz]
    rfl
  rw [hmul, hvx, hvz]
  refine roundsTo_roundWithAccuracy ⟨?_⟩ ?_
  · show (m : ℝ) * 2 ^ e * (n * 2 ^ f) / 2 ^ (e + f) = (m * n : ℕ)
    rw [zpow_add₀ two_ne_zero]
    push_cast
    field_simp
  · rw [targetExponent_eq, totalExponent]
    have hlog : 52 ≤ (m * n).log2 ∨ e + f ≤ -1074 := by
      obtain hfull | rfl := hcx.full
      · exact .inl (le_log2_of_two_pow_le (hfull.trans (Nat.le_mul_of_pos_right m hn)))
      · obtain hfull | rfl := hcz.full
        · exact .inl (le_log2_of_two_pow_le (hfull.trans (Nat.le_mul_of_pos_left n hm)))
        · exact .inr (by decide)
    omega

/-- A whole quotient with the accuracy of its remainder is the quotient, cut off. -/
lemma truncates_quotient (a : ℕ) {n : ℕ} (hn : 0 < n) :
    Truncates (ExtendedMantissa.ofMantissaAndAccuracy (a / n) (accuracyOfFraction (a % n) n))
      (a / n) := by
  have hcast : (0 : ℝ) < n := Nat.cast_pos.mpr hn
  have hquotient : (a : ℝ) / n = (a / n : ℕ) + (a % n : ℕ) / n := by
    rw [div_eq_iff hcast.ne', add_mul, div_mul_cancel₀ _ hcast.ne']
    exact_mod_cast (Nat.div_add_mod' a n).symm
  have hlt : ((a % n : ℕ) : ℝ) / n < 1 := by
    rw [div_lt_one hcast]
    exact_mod_cast Nat.mod_lt a hn
  rw [hquotient, accuracyOfFraction]
  generalize a / n = q
  generalize a % n = r at *
  split_ifs with hzero
  · refine ⟨?_⟩
    show (q : ℝ) + (r : ℝ) / n = q
    rw [hzero, Nat.cast_zero, zero_div, add_zero]
  have hpos : (0 : ℝ) < r / n := div_pos (Nat.cast_pos.mpr (Nat.pos_of_ne_zero hzero)) hcast
  rcases lt_trichotomy (2 * r) n with hhalf | hhalf | hhalf
  · rw [Nat.compare_eq_lt.mpr hhalf]
    have hbelow : (r : ℝ) / n < 1 / 2 := by
      rw [div_lt_div_iff₀ hcast two_pos, mul_comm, one_mul]
      exact_mod_cast hhalf
    refine ⟨?_⟩
    show (q : ℝ) < q + r / n ∧ (q : ℝ) + r / n < q + 1 / 2
    exact ⟨by linarith, by linarith⟩
  · rw [Nat.compare_eq_eq.mpr hhalf]
    have hequal : (r : ℝ) / n = 1 / 2 := by
      rw [div_eq_div_iff hcast.ne' two_ne_zero, mul_comm, one_mul]
      exact_mod_cast hhalf
    refine ⟨?_⟩
    show (q : ℝ) + (r : ℝ) / n = q + 1 / 2
    rw [hequal]
  · rw [Nat.compare_eq_gt.mpr hhalf]
    have habove : 1 / 2 < (r : ℝ) / n := by
      rw [div_lt_div_iff₀ two_pos hcast, one_mul, mul_comm]
      exact_mod_cast hhalf
    refine ⟨?_⟩
    show (q : ℝ) + 1 / 2 < q + r / n ∧ (q : ℝ) + r / n < q + 1
    exact ⟨by linarith, by linarith⟩

/-- The quotient of two mantissas is long enough to be rounded. -/
lemma divCore_bits {n : ℕ} (hm : 0 < m) (hn : 0 < n) (e f : ℤ) :
    (divCore .binary64 m e n f).2.1 ≤ Format.binary64.targetExponent
      (totalExponent (divCore .binary64 m e n f).1 (divCore .binary64 m e n f).2.1) := by
  unfold divCore
  dsimp only
  rw [targetExponent_eq, targetExponent_eq, totalExponent, totalExponent, totalExponent]
  generalize hd : min (e - f) (max ((m.log2 : ℤ) + 1 + e - (n.log2 + 1 + f) - 53) (-1074)) = d
  by_cases hleast : d ≤ -1074
  · exact hleast.trans (le_max_right _ _)
  obtain ⟨k, hk⟩ := Int.le.dest (hd ▸ min_le_left _ _ : d ≤ e - f)
  have hamount : (e - f - d).toNat = k := by omega
  have hplaces : 52 + (n.log2 + 1) ≤ m.log2 + k := by omega
  -- The dividend has 53 bits more than the divisor.
  have hquotient : 2 ^ 52 ≤ m <<< k / n := by
    rw [Nat.le_div_iff_mul_le hn, Nat.shiftLeft_eq]
    calc 2 ^ 52 * n ≤ 2 ^ 52 * 2 ^ (n.log2 + 1) := Nat.mul_le_mul_left _ Nat.lt_log2_self.le
      _ = 2 ^ (52 + (n.log2 + 1)) := (pow_add ..).symm
      _ ≤ 2 ^ (m.log2 + k) := Nat.pow_le_pow_right two_pos hplaces
      _ = 2 ^ m.log2 * 2 ^ k := pow_add ..
      _ ≤ m * 2 ^ k := Nat.mul_le_mul_right _ (Nat.log2_self_le hm.ne')
  have hlog := le_log2_of_two_pow_le hquotient
  rw [hamount]
  omega

/-- A quotient is rounded to the nearest multiple of its unit. -/
theorem roundsTo_div (hx : x.isFinite = true) (hz : z.isFinite = true) (hposx : 0 < x)
    (hposz : 0 < z) : RoundsTo (exactValue x / exactValue z) (x / z) := by
  obtain ⟨m, e, hm, hux, -, -, hvx⟩ := exists_unpack_of_pos hx hposx
  obtain ⟨n, f, hn, huz, -, -, hvz⟩ := exists_unpack_of_pos hz hposz
  rw [div_eq_pack, hux, huz, hvx, hvz]
  refine roundsTo_roundWithAccuracy ?_ (divCore_bits hm hn e f)
  generalize hd : min (e - f) (Format.binary64.targetExponent
    (totalExponent m e - totalExponent n f)) = d
  obtain ⟨k, hk⟩ := Int.le.dest (hd ▸ min_le_left _ _ : d ≤ e - f)
  have hamount : (e - f - d).toNat = k := by omega
  have hexponent : e = f + d + k := by omega
  have hexact : (m : ℝ) * 2 ^ e / (n * 2 ^ f) / 2 ^ d = (m <<< k : ℕ) / n := by
    rw [hexponent, zpow_add₀ two_ne_zero, zpow_add₀ two_ne_zero, zpow_natCast, Nat.shiftLeft_eq]
    push_cast
    field_simp
  rw [hamount, hexact]
  exact truncates_quotient _ hn

end Round

/-! ## Bounds -/

section Bounds

variable {x z : Float} {a : ℝ} {m : ℕ} {e t : ℤ}

lemma unpack_ofModel_pack (u : UnpackedFloat) : (Float.ofModel (.pack u)).toModel.unpack =
    UnpackedFloat.unpack .binary64 (UnpackedFloat.pack .binary64 u) := rfl

/-- A canonical number is packed without loss, and as the infinite one if it is too great. -/
lemma ofModel_pack_of_canonical (hm : 0 < m) (h : Canonical m e)
    (hx : x = .ofModel (.pack (.finite .positive m e hm))) :
    0 < x ∧ (x.isFinite = true ↔ e ≤ 971) ∧ (e ≤ 971 → exactValue x = m * 2 ^ e) := by
  have hunpack := congrArg (·.toModel.unpack) hx
  dsimp only at hunpack
  rw [unpack_ofModel_pack] at hunpack
  rw [lt_iff_compare, isFinite_eq_unpack]
  by_cases he : e ≤ 971
  · rw [unpack_pack_of_canonical hm h he] at hunpack
    rw [hunpack]
    exact ⟨rfl, iff_of_true rfl he, fun _ => exactValue_of_unpack hunpack⟩
  · have hinfinity : UnpackedFloat.unpack .binary64 (packedInfinity .binary64 .positive) =
        .infinity .positive := rfl
    rw [pack_of_large hm (lt_of_not_ge he), hinfinity] at hunpack
    rw [hunpack]
    exact ⟨rfl, iff_of_false nofun he, fun h => absurd h he⟩

/-- A finite number that is rounded to is a multiple of the unit. -/
lemma RoundsTo.exists_multiple (h : RoundsTo a x) (hx : x.isFinite = true) :
    ∃ t r, UnitOf a t ∧ |((r : ℕ) : ℝ) - a / 2 ^ t| ≤ 1 / 2 ∧ exactValue x = r * 2 ^ t := by
  obtain ⟨t, r, hunit, hnear, ⟨rfl, rfl⟩ | ⟨m, e, hm, hcanonical, hvalue, hpack⟩⟩ := h
  · exact ⟨t, 0, hunit, hnear, by rw [exactValue_zero, Nat.cast_zero, zero_mul]⟩
  · obtain ⟨-, hfinite, hexact⟩ := ofModel_pack_of_canonical hm hcanonical hpack
    exact ⟨t, r, hunit, hnear, (hexact (hfinite.mp hx)).trans hvalue⟩

lemma RoundsTo.nonneg (h : RoundsTo a x) (hx : x.isFinite = true) : 0 ≤ exactValue x := by
  obtain ⟨t, r, -, -, hvalue⟩ := h.exists_multiple hx
  rw [hvalue]
  positivity

lemma RoundsTo.eq_zero_or_pos (h : RoundsTo a x) : x = 0 ∨ 0 < x := by
  obtain ⟨t, r, -, -, ⟨-, hzero⟩ | ⟨m, e, hm, hcanonical, -, hpack⟩⟩ := h
  · exact .inl hzero
  · exact .inr (ofModel_pack_of_canonical hm hcanonical hpack).1

/-- A number that is not too small is not rounded to zero. -/
theorem RoundsTo.pos (h : RoundsTo a x) (ha : 2 ^ (-1074 : ℤ) ≤ a) : 0 < x := by
  obtain ⟨t, r, hunit, hnear, ⟨rfl, -⟩ | ⟨m, e, hm, hcanonical, -, hpack⟩⟩ := h
  · have hle : (2 : ℝ) ^ t ≤ a :=
      hunit.full.elim (fun hfull => (zpow_le_zpow_right₀ one_le_two (by omega)).trans hfull)
        (fun hleast => hleast ▸ ha)
    have hone : 1 ≤ a / 2 ^ t := (one_le_div₀ (by positivity)).mpr hle
    rw [abs_le] at hnear
    norm_num at hnear
    linarith
  · exact (ofModel_pack_of_canonical hm hcanonical hpack).1

/-- A multiple of the unit that is not below a number is not below its nearest one either. -/
lemma UnitOf.rounded_le (h : UnitOf a t) {r n : ℕ} {f : ℤ} (hnear : |(r : ℝ) - a / 2 ^ t| ≤ 1 / 2)
    (hcanonical : Canonical n f) (hle : a ≤ n * 2 ^ f) : (r : ℝ) * 2 ^ t ≤ n * 2 ^ f := by
  have hunit : t ≤ f := by
    refine h.full.elim (fun hfull => ?_) (fun hleast => hleast ▸ hcanonical.least_le)
    have hlt : (2 : ℝ) ^ (t + 52) < 2 ^ (53 + f) := (hfull.trans hle).trans_lt hcanonical.mul_lt
    have := (zpow_lt_zpow_iff_right₀ one_lt_two).mp hlt
    omega
  obtain ⟨k, rfl⟩ := Int.le.dest hunit
  have hmultiple : (n : ℝ) * 2 ^ (t + k : ℤ) = (n * 2 ^ k : ℕ) * 2 ^ t := by
    rw [zpow_add₀ two_ne_zero, zpow_natCast]
    push_cast
    ring
  have hr : r ≤ n * 2 ^ k := by
    refine natCast_le_of_abs_le hnear ?_
    rw [hmultiple, ← div_le_iff₀ (by positivity)] at hle
    linarith
  rw [hmultiple]
  gcongr

/-- What lies below a 64-bit number is not rounded to a greater one. -/
theorem RoundsTo.le_of_le (h : RoundsTo a x) (hz : z.isFinite = true) (hpos : 0 < z)
    (hle : a ≤ exactValue z) : x.isFinite = true ∧ exactValue x ≤ exactValue z := by
  obtain ⟨n, f, hn, -, hcz, hf, hvz⟩ := exists_unpack_of_pos hz hpos
  obtain ⟨t, r, hunit, hnear, hround⟩ := h
  rw [hvz] at hle ⊢
  have hrounded := hunit.rounded_le hnear hcz hle
  obtain ⟨rfl, rfl⟩ | ⟨m, e, hm, hcanonical, hvalue, hpack⟩ := hround
  · rw [exactValue_zero]
    exact ⟨rfl, by positivity⟩
  · have he : e ≤ 971 := by
      by_contra hgreat
      have hlt := hcz.lt_of_exponent_lt hcanonical (by omega)
      linarith
    obtain ⟨-, hfinite, hexact⟩ := ofModel_pack_of_canonical hm hcanonical hpack
    exact ⟨hfinite.mpr he, (hexact he).trans_le (hvalue.trans_le hrounded)⟩

/-- What is added to a power of two is lost in rounding, if it is less than half of the unit. -/
theorem RoundsTo.le_two_zpow {p : ℤ} (h : RoundsTo a x) (hx : x.isFinite = true)
    (hp : -1074 ≤ p) (hlt : a < 2 ^ (p + 53) + 2 ^ p) : exactValue x ≤ 2 ^ (p + 53) := by
  obtain ⟨t, r, hunit, hnear, hvalue⟩ := h.exists_multiple hx
  have hunitpos : (0 : ℝ) < 2 ^ t := by positivity
  have hunitle : t ≤ p + 1 := by
    refine hunit.full.elim (fun hfull => ?_) (fun hleast => by omega)
    have hone : (2 : ℝ) ^ p ≤ 2 ^ (p + 53) := zpow_le_zpow_right₀ one_le_two (by omega)
    have hdouble : (2 : ℝ) ^ (p + 54) = 2 ^ (p + 53) + 2 ^ (p + 53) := by
      rw [← two_mul, ← zpow_one_add₀ two_ne_zero]
      congr 1
      omega
    have hbelow : (2 : ℝ) ^ (t + 52) < 2 ^ (p + 54) := by linarith
    have := (zpow_lt_zpow_iff_right₀ one_lt_two).mp hbelow
    omega
  have hr : (r : ℝ) ≤ 2 ^ (p + 53 - t) := by
    obtain rfl | hfine := hunitle.eq_or_lt
    · have hpower : (2 : ℝ) ^ (p + 53 - (p + 1)) = (2 ^ 52 : ℕ) := by
        have hexponent : p + 53 - (p + 1) = (52 : ℕ) := by omega
        rw [hexponent, zpow_natCast]
        norm_num
      rw [hpower, Nat.cast_le]
      refine natCast_le_of_abs_le hnear ?_
      rw [div_lt_iff₀ hunitpos]
      calc a < 2 ^ (p + 53) + 2 ^ p := hlt
        _ = _ := by
          rw [zpow_add₀ two_ne_zero, zpow_add₀ two_ne_zero]
          push_cast
          ring
    · calc (r : ℝ) ≤ (2 ^ 53 : ℕ) := Nat.cast_le.mpr (hunit.bounds hnear).1
        _ = 2 ^ (53 : ℤ) := by norm_num
        _ ≤ 2 ^ (p + 53 - t) := zpow_le_zpow_right₀ one_le_two (by omega)
  calc exactValue x = r * 2 ^ t := hvalue
    _ ≤ 2 ^ (p + 53 - t) * 2 ^ t := by gcongr
    _ = 2 ^ (p + 53) := by rw [← zpow_add₀ two_ne_zero, sub_add_cancel]

/-! ### The infinite number -/

/-- The number above all finite ones. -/
def infinity : Float := .ofModel (.pack (.infinity .positive))

lemma unpack_infinity : infinity.toModel.unpack = .infinity .positive := rfl

lemma infinity_pos : 0 < infinity := by decide +kernel

lemma not_isFinite_infinity : ¬ infinity.isFinite = true := by decide +kernel

lemma eq_infinity (hpos : 0 < x) (hx : ¬ x.isFinite = true) : x = infinity := by
  have hself := ofModel_pack_unpack x
  obtain ⟨m, e, hm, hunpack⟩ | hunpack := unpack_of_pos hpos
  · rw [isFinite_eq_unpack, hunpack] at hx
    exact absurd rfl hx
  · rw [hunpack] at hself
    exact hself.symm

lemma infinity_add (hz : z.isFinite = true) (hpos : 0 < z) : infinity + z = infinity := by
  obtain ⟨m, e, hm, hunpack, -⟩ := exists_unpack_of_pos hz hpos
  rw [add_eq_pack, unpack_infinity, hunpack]
  rfl

lemma infinity_mul (hz : z.isFinite = true) (hpos : 0 < z) : infinity * z = infinity := by
  obtain ⟨m, e, hm, hunpack, -⟩ := exists_unpack_of_pos hz hpos
  rw [mul_eq_pack, unpack_infinity, hunpack]
  rfl

lemma div_infinity (hz : z.isFinite = true) (hpos : 0 < z) : z / infinity = 0 := by
  obtain ⟨m, e, hm, hunpack, -⟩ := exists_unpack_of_pos hz hpos
  rw [div_eq_pack, unpack_infinity, hunpack]
  rfl

/-! ### Numbers that stay above zero -/

/-- What a number above zero stands for is not below the least number above zero. -/
lemma two_zpow_le_exactValue (hx : x.isFinite = true) (hpos : 0 < x) :
    2 ^ (-1074 : ℤ) ≤ exactValue x := by
  obtain ⟨m, e, hm, -, hcanonical, -, hvalue⟩ := exists_unpack_of_pos hx hpos
  calc (2 : ℝ) ^ (-1074 : ℤ) ≤ 2 ^ e := zpow_le_zpow_right₀ one_le_two hcanonical.least_le
    _ ≤ m * 2 ^ e := two_zpow_le_mul hm e
    _ = exactValue x := hvalue.symm

/-- A number above zero, which may be infinite, stays above zero when another one is added. -/
theorem add_pos_of_pos (hposx : 0 < x) (hz : z.isFinite = true) (hposz : 0 < z) : 0 < x + z := by
  by_cases hx : x.isFinite = true
  · have hle := two_zpow_le_exactValue hx hposx
    have hvalue := (exactValue_pos_iff hz).mpr hposz
    exact (roundsTo_add hx hz hposx hposz).pos (by linarith)
  · rw [eq_infinity hposx hx, infinity_add hz hposz]
    exact infinity_pos

/-- A number above zero stays above zero when it is not made smaller. -/
theorem mul_pos_of_one_le (hposx : 0 < x) (hz : z.isFinite = true) (hone : 1 ≤ exactValue z) :
    0 < x * z := by
  have hposz : 0 < z := (exactValue_pos_iff hz).mp (by linarith)
  by_cases hx : x.isFinite = true
  · have hle := two_zpow_le_exactValue hx hposx
    have hvalue := (exactValue_pos_iff hx).mpr hposx
    refine (roundsTo_mul hx hz hposx hposz).pos (hle.trans ?_)
    exact le_mul_of_one_le_right hvalue.le hone
  · rw [eq_infinity hposx hx, infinity_mul hz hposz]
    exact infinity_pos

end Bounds

end Placard
