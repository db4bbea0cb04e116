import Placard.Proofs.Decimal.Exact

set_option relaxedAutoImplicit false
set_option autoImplicit false

/-!
# Canonical mantissas and exponents

A finite 64-bit number other than zero has one mantissa and one exponent: the mantissa has 53 bits,
and fewer only with the least exponent. So numbers are compared by their exponents first, and
packing loses nothing unless the exponent is too great.

## Main definitions

* `Placard.Canonical`: the mantissas and exponents of 64-bit numbers.

## Main results

* `Placard.canonical_of_unpack`: the arithmetic of 64-bit numbers starts from such pairs.
* `Placard.unpack_pack_of_canonical`: it also gets back those that it packs.
* `Placard.exactValue_lt_iff`: finite numbers are ordered as what they stand for.
-/

namespace Placard

open Float.Model Float.Model.UnpackedFloat

/-- Whether a mantissa and an exponent are those of a 64-bit number, with no bound on the exponent
from above. -/
structure Canonical (m : ℕ) (e : ℤ) : Prop where
  /-- The mantissa has at most 53 bits. -/
  lt_bits : m < 2 ^ 53
  /-- The exponent is not below the least one. -/
  least_le : -1074 ≤ e
  /-- The mantissa has less than 53 bits with the least exponent only. -/
  full : 2 ^ 52 ≤ m ∨ e = -1074

section Pairs

variable {m m' : ℕ} {e e' : ℤ}

lemma Canonical.log2_le (h : Canonical m e) : m.log2 ≤ 52 := by
  by_cases hm : m = 0
  · rw [hm]
    decide
  · exact Nat.le_of_lt_succ ((Nat.log2_lt hm).mpr h.lt_bits)

lemma log2_of_full (hfull : 2 ^ 52 ≤ m) (hbits : m < 2 ^ 53) : m.log2 = 52 :=
  (Nat.log2_eq_iff (by omega)).mpr ⟨hfull, hbits⟩

/-- A number lies above the power of its exponent. -/
lemma two_zpow_le_mul (hm : 0 < m) (e : ℤ) : (2 : ℝ) ^ e ≤ m * 2 ^ e :=
  le_mul_of_one_le_left (by positivity) (Nat.one_le_cast.mpr hm)

/-- It has at most 53 bits more. -/
lemma Canonical.mul_lt (h : Canonical m e) : (m : ℝ) * 2 ^ e < 2 ^ (53 + e) := by
  have hbits : (m : ℝ) < 2 ^ (53 : ℤ) := by exact_mod_cast h.lt_bits
  rw [zpow_add₀ two_ne_zero]
  gcongr

/-- A greater exponent makes a greater number. -/
lemma Canonical.lt_of_exponent_lt (h : Canonical m e) (h' : Canonical m' e') (he : e < e') :
    (m : ℝ) * 2 ^ e < m' * 2 ^ e' := by
  have hfull : 2 ^ 52 ≤ m' := h'.full.resolve_right (by have := h.least_le; omega)
  have hleading : (2 : ℝ) ^ (52 : ℤ) ≤ m' := by exact_mod_cast hfull
  calc (m : ℝ) * 2 ^ e < 2 ^ (53 + e) := h.mul_lt
    _ ≤ 2 ^ (52 + e') := zpow_le_zpow_right₀ one_le_two (by omega)
    _ = 2 ^ (52 : ℤ) * 2 ^ e' := zpow_add₀ two_ne_zero _ _
    _ ≤ m' * 2 ^ e' := by gcongr

/-- A number other than zero has one mantissa and one exponent. -/
lemma Canonical.eq_of_value_eq (h : Canonical m e) (h' : Canonical m' e')
    (heq : (m : ℝ) * 2 ^ e = m' * 2 ^ e') : m = m' ∧ e = e' := by
  rcases lt_trichotomy e e' with he | rfl | he
  · exact absurd heq (h.lt_of_exponent_lt h' he).ne
  · have hpos : (2 : ℝ) ^ e ≠ 0 := by positivity
    exact ⟨Nat.cast_injective (mul_right_cancel₀ hpos heq), rfl⟩
  · exact absurd heq (h'.lt_of_exponent_lt h he).ne'

/-- Numbers are compared by their exponents first. -/
lemma Canonical.lt_iff (h : Canonical m e) (h' : Canonical m' e') :
    (m : ℝ) * 2 ^ e < m' * 2 ^ e' ↔ (compare e e').then (compare m m') = .lt := by
  rcases lt_trichotomy e e' with he | rfl | he
  · rw [Int.compare_eq_lt.mpr he]
    exact iff_of_true (h.lt_of_exponent_lt h' he) rfl
  · rw [Int.compare_eq_eq.mpr rfl, Ordering.eq_then, Nat.compare_eq_lt,
      mul_lt_mul_iff_left₀ (by positivity), Nat.cast_lt]
  · rw [Int.compare_eq_gt.mpr he]
    exact iff_of_false (h'.lt_of_exponent_lt h he).not_gt nofun

end Pairs

/-! ## Unpacking -/

section Unpack

variable {x y : Float} {s : Sign} {m : ℕ} {e : ℤ} {hm : 0 < m}

/-- The arithmetic of 64-bit numbers starts from canonical mantissas and exponents. -/
lemma canonical_of_unpack (h : x.toModel.unpack = .finite s m e hm) : Canonical m e ∧ e ≤ 971 := by
  have hread := Binary.ofFloat_eq x
  rw [h, Binary.Reading.ofUnpacked, Binary.ofFloat] at hread
  have hfraction : x.toBits.toNat % Binary.leastNormal < 2 ^ 52 := Nat.mod_lt _ (by decide)
  have hbiased : x.toBits.toNat / Binary.leastNormal % 2048 < 2048 := Nat.mod_lt _ (by decide)
  have hnormal : Binary.leastNormal = 2 ^ 52 := rfl
  generalize x.toBits.toNat % Binary.leastNormal = fraction at *
  generalize x.toBits.toNat / Binary.leastNormal % 2048 = biased at *
  split_ifs at hread with htop hinfinite hbottom
  · obtain ⟨-, rfl, rfl⟩ := Binary.mk.inj (Binary.Reading.finite.inj hread)
    exact ⟨⟨by omega, le_refl _, .inr rfl⟩, by decide⟩
  · obtain ⟨-, rfl, rfl⟩ := Binary.mk.inj (Binary.Reading.finite.inj hread)
    rw [Binary.leastExponent, hnormal]
    exact ⟨⟨by omega, by omega, .inl (by omega)⟩, by omega⟩

/-- What a number above zero stands for. -/
lemma exactValue_of_unpack (h : x.toModel.unpack = .finite .positive m e hm) :
    exactValue x = m * 2 ^ e := by
  rw [exactValue, Binary.ofFloat_eq, h]
  show (if (Sign.positive == .negative) = true then (-1 : ℝ) else 1) * m * 2 ^ e = _
  rw [if_neg (by decide), one_mul]

/-- What a finite number is, and what it stands for. -/
lemma unpack_of_isFinite (h : x.isFinite = true) :
    (∃ s, x.toModel.unpack = .zero s ∧ exactValue x = 0) ∨
      (∃ m e hm, x.toModel.unpack = .finite .positive m e hm ∧ Canonical m e ∧
        exactValue x = m * 2 ^ e) ∨
      ∃ m e hm, x.toModel.unpack = .finite .negative m e hm ∧ Canonical m e ∧
        exactValue x = -(m * 2 ^ e) := by
  rw [isFinite_eq_unpack] at h
  cases hx : x.toModel.unpack with
  | notANumber =>
    rw [hx] at h
    cases h
  | infinity s =>
    rw [hx] at h
    cases h
  | zero s =>
    refine .inl ⟨s, rfl, ?_⟩
    rw [exactValue, Binary.ofFloat_eq, hx]
    simp [Binary.Reading.ofUnpacked, Binary.value]
  | finite s m e hm =>
    have hcanonical := (canonical_of_unpack hx).1
    cases s with
    | positive => exact .inr (.inl ⟨m, e, hm, rfl, hcanonical, exactValue_of_unpack hx⟩)
    | negative =>
      refine .inr (.inr ⟨m, e, hm, rfl, hcanonical, ?_⟩)
      rw [exactValue, Binary.ofFloat_eq, hx]
      show (if (Sign.negative == .negative) = true then (-1 : ℝ) else 1) * m * 2 ^ e = _
      rw [if_pos (by decide), neg_one_mul, neg_mul]

/-- **Finite numbers are ordered as what they stand for.** -/
theorem exactValue_lt_iff (hx : x.isFinite = true) (hy : y.isFinite = true) :
    exactValue x < exactValue y ↔ x < y := by
  have hpos : ∀ {m : ℕ} (e : ℤ), 0 < m → (0 : ℝ) < m * 2 ^ e := fun e hm => by positivity
  rw [lt_iff_compare]
  obtain ⟨s, hux, hvx⟩ | ⟨m, e, hm, hux, hcx, hvx⟩ | ⟨m, e, hm, hux, hcx, hvx⟩ :=
    unpack_of_isFinite hx
  · obtain ⟨t, huy, hvy⟩ | ⟨n, f, hn, huy, hcy, hvy⟩ | ⟨n, f, hn, huy, hcy, hvy⟩ :=
      unpack_of_isFinite hy
    all_goals rw [hux, huy, hvx, hvy]
    · exact iff_of_false (lt_irrefl 0) nofun
    · exact iff_of_true (hpos f hn) rfl
    · exact iff_of_false (neg_neg_of_pos (hpos f hn)).not_gt nofun
  · obtain ⟨t, huy, hvy⟩ | ⟨n, f, hn, huy, hcy, hvy⟩ | ⟨n, f, hn, huy, hcy, hvy⟩ :=
      unpack_of_isFinite hy
    all_goals rw [hux, huy, hvx, hvy]
    · exact iff_of_false (hpos e hm).not_gt nofun
    · rw [hcx.lt_iff hcy]
      exact ⟨congrArg some, Option.some.inj⟩
    · exact iff_of_false ((neg_neg_of_pos (hpos f hn)).trans (hpos e hm)).not_gt nofun
  · obtain ⟨t, huy, hvy⟩ | ⟨n, f, hn, huy, hcy, hvy⟩ | ⟨n, f, hn, huy, hcy, hvy⟩ :=
      unpack_of_isFinite hy
    all_goals rw [hux, huy, hvx, hvy]
    · exact iff_of_true (neg_neg_of_pos (hpos e hm)) rfl
    · exact iff_of_true ((neg_neg_of_pos (hpos e hm)).trans (hpos f hn)) rfl
    · have hswap : ((compare e f).then (compare m n)).swap = (compare f e).then (compare n m) := by
        rw [Ordering.swap_then, Int.compare_swap, Nat.compare_swap]
      rw [neg_lt_neg_iff, hcy.lt_iff hcx, ← hswap]
      exact ⟨congrArg some, Option.some.inj⟩

/-- A finite number above zero has a mantissa and an exponent, and stands for their product. -/
lemma exists_unpack_of_pos (hfinite : x.isFinite = true) (hpos : 0 < x) :
    ∃ m e, ∃ hm : 0 < m, x.toModel.unpack = .finite .positive m e hm ∧ Canonical m e ∧
      e ≤ 971 ∧ exactValue x = m * 2 ^ e := by
  have hvalue := (exactValue_pos_iff hfinite).mpr hpos
  obtain ⟨s, hx, hv⟩ | ⟨m, e, hm, hx, hcanonical, hv⟩ | ⟨m, e, hm, hx, hcanonical, hv⟩ :=
    unpack_of_isFinite hfinite
  · rw [hv] at hvalue
    exact absurd hvalue (lt_irrefl 0)
  · exact ⟨m, e, hm, hx, hcanonical, (canonical_of_unpack hx).2, hv⟩
  · have hneg : (0 : ℝ) < m * 2 ^ e := by positivity
    rw [hv] at hvalue
    linarith

/-- A number above zero is told from what it stands for. -/
lemma eq_of_exactValue_eq (hx : x.isFinite = true) (hy : y.isFinite = true) (hposx : 0 < x)
    (hposy : 0 < y) (h : exactValue x = exactValue y) : x = y := by
  obtain ⟨m, e, hm, hux, hcx, -, hvx⟩ := exists_unpack_of_pos hx hposx
  obtain ⟨n, f, hn, huy, hcy, -, hvy⟩ := exists_unpack_of_pos hy hposy
  rw [hvx, hvy] at h
  obtain ⟨rfl, rfl⟩ := hcx.eq_of_value_eq hcy h
  rw [← ofModel_pack_unpack x, ← ofModel_pack_unpack y, hux, huy]

end Unpack

/-! ## Packing -/

section Pack

variable {s : Sign} {m : ℕ} {e : ℤ} (hm : 0 < m)

/-- A mantissa of 53 bits is packed without the first one. -/
lemma pack_of_full (hfull : 2 ^ 52 ≤ m) (hbits : m < 2 ^ 53) (he : e ≤ 971) :
    UnpackedFloat.pack .binary64 (.finite s m e hm) =
      packComponents .binary64 s (BitVec.ofNat 11 (e + 1075).toNat) (BitVec.ofNat 52 m) := by
  have hfits : ¬ 2 ^ 11 ≤ (e + (1023 : ℕ) + (52 : ℕ)).toNat + 1 := by omega
  have hexponent : e + 1075 = e + (1023 : ℕ) + (52 : ℕ) := by omega
  rw [hexponent]
  refine (if_neg hfits).trans (if_pos ?_)
  rw [log2_of_full hfull hbits]
  rfl

/-- A shorter mantissa is packed as it is. -/
lemma pack_of_not_full (hbits : m < 2 ^ 52) :
    UnpackedFloat.pack .binary64 (.finite s m (-1074) hm) =
      packComponents .binary64 s 0#_ (BitVec.ofNat 52 m) := by
  have hlog : m.log2 < 52 := (Nat.log2_lt hm.ne').mpr hbits
  have hshort : ¬ m.log2 + 1 = Format.binary64.mantissaBits := by
    show ¬ m.log2 + 1 = 53
    omega
  unfold UnpackedFloat.pack
  dsimp only
  rw [if_neg (by decide), if_neg hshort]

/-- A number with a great exponent is packed as the infinite one. -/
lemma pack_of_large (he : 971 < e) :
    UnpackedFloat.pack .binary64 (.finite s m e hm) = packedInfinity .binary64 s := by
  have hlarge : 2 ^ 11 ≤ (e + (1023 : ℕ) + (52 : ℕ)).toNat + 1 := by omega
  exact if_pos hlarge

/-- Packing loses nothing of a canonical number unless its exponent is too great. -/
theorem unpack_pack_of_canonical (h : Canonical m e) (he : e ≤ 971) :
    UnpackedFloat.unpack .binary64 (UnpackedFloat.pack .binary64 (.finite s m e hm)) =
      .finite s m e hm := by
  have hleast := h.least_le
  by_cases hfull : 2 ^ 52 ≤ m
  · have hexponent : (BitVec.ofNat 11 (e + 1075).toNat).toNat = (e + 1075).toNat := by
      rw [BitVec.toNat_ofNat]
      omega
    have htop : BitVec.ofNat 11 (e + 1075).toNat ≠ -1#11 := by
      intro heq
      have hnat := congrArg BitVec.toNat heq
      rw [hexponent] at hnat
      change (e + 1075).toNat = 2047 at hnat
      omega
    have hbottom : BitVec.ofNat 11 (e + 1075).toNat ≠ 0#11 := by
      intro heq
      have hnat := congrArg BitVec.toNat heq
      rw [hexponent] at hnat
      change (e + 1075).toNat = 0 at hnat
      omega
    have hmantissa : (1#1 ++ BitVec.ofNat 52 m).toNat = m := by
      have hbits := h.lt_bits
      have hleading : Binary.leastNormal = 2 ^ 52 := rfl
      rw [Binary.toNat_fullMantissa, BitVec.toNat_ofNat]
      omega
    rw [pack_of_full hm hfull h.lt_bits he, UnpackedFloat.unpack]
    simp only [unpackExponent_packComponents, unpackMantissa_packComponents,
      unpackSign_packComponents, Sign.ofBitVec_toBitVec, htop, hbottom, if_false, hexponent]
    congr 1
    show ((e + 1075).toNat : ℤ) - ((1023 : ℕ) + (52 : ℕ)) = e
    omega
  · obtain rfl := h.full.resolve_left hfull
    have hnat : (BitVec.ofNat 52 m).toNat = m := by
      rw [BitVec.toNat_ofNat]
      exact Nat.mod_eq_of_lt (Nat.lt_of_not_le hfull)
    have hmantissa : BitVec.ofNat 52 m ≠ 0#52 := by
      intro heq
      have hzero := congrArg BitVec.toNat heq
      rw [hnat] at hzero
      exact hm.ne' hzero
    rw [pack_of_not_full hm (Nat.lt_of_not_le hfull), UnpackedFloat.unpack]
    simp only [unpackExponent_packComponents, unpackMantissa_packComponents,
      unpackSign_packComponents, Sign.ofBitVec_toBitVec]
    rw [if_neg (by decide), if_pos trivial, dif_neg hmantissa]
    congr 1

end Pack

end Placard
