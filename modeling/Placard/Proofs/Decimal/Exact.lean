import Mathlib
import Placard.Decimal.Binary
import Placard.Proofs.Decimal.Sign

set_option relaxedAutoImplicit false
set_option autoImplicit false

/-!
# Exact values

A finite 64-bit number stands for a real number, which `Placard.Binary` tells from its bits. This
file compares this reading with the one that the arithmetic of these numbers is based on, and
collects the operations that need no rounding. The lemmas on bits that it starts from, such as
`Float.ofBits_toBits`, are in no single module of Mathlib, so the whole of it is imported.

## Main definitions

* `Placard.Binary.value`: the real number that a mantissa, an exponent and a sign stand for.
* `Placard.exactValue`: the real number that a 64-bit number stands for.

## Main results

* `Placard.Binary.ofFloat_eq`: the bits of a number are read in the same way by its arithmetic.
* `Placard.exactValue_pos_iff`: a finite number is above zero if what it stands for is.
* `Placard.div_self_of_pos`, `Placard.zero_div_of_pos`: quotients that are exact.
-/

namespace Placard

open Float.Model Float.Model.UnpackedFloat

namespace Binary

/-! ## Reading the bits -/

/-- What an unpacked number stands for. -/
def Reading.ofUnpacked : UnpackedFloat → Reading
  | .notANumber => .nan
  | .infinity s => .infinite (s == .negative)
  | .zero s => .finite { negative := s == .negative, mantissa := 0, exponent := leastExponent }
  | .finite s m e _ => .finite { negative := s == .negative, mantissa := m, exponent := e }

section Bits

variable (b : BitVec Format.binary64.numBits)

lemma toNat_unpackMantissa : (unpackMantissa b).toNat = b.toNat % leastNormal := by
  rw [unpackMantissa_def, BitVec.extractLsb'_toNat, Nat.shiftRight_zero]
  rfl

lemma toNat_unpackExponent : (unpackExponent b).toNat = b.toNat / leastNormal % 2048 := by
  rw [unpackExponent_def, BitVec.extractLsb'_toNat, Nat.shiftRight_eq_div_pow]
  rfl

lemma toNat_unpackSign : (unpackSign b).toNat = b.toNat / 2 ^ 63 := by
  rw [unpackSign_def, BitVec.extractLsb'_toNat, Nat.shiftRight_eq_div_pow]
  refine Nat.mod_eq_of_lt (Nat.div_lt_of_lt_mul ?_)
  exact b.isLt

lemma ofBitVec_unpackSign :
    (Sign.ofBitVec (unpackSign b) == .negative) = decide (twoTo 63 ≤ b.toNat) := by
  have hsign : ∀ v : BitVec 1, (Sign.ofBitVec v == .negative) = decide (1 ≤ v.toNat) := by
    decide
  have hle : 1 ≤ b.toNat / 2 ^ 63 ↔ twoTo 63 ≤ b.toNat := by
    rw [Nat.le_div_iff_mul_le (by decide), Nat.one_mul]
    rfl
  rw [hsign, toNat_unpackSign]
  exact decide_eq_decide.mpr hle

lemma unpackExponent_eq_ofNat_iff {n : Nat} (hn : n < 2048) :
    unpackExponent b = BitVec.ofNat _ n ↔ b.toNat / leastNormal % 2048 = n := by
  have hmod : n % 2 ^ Format.binary64.exponentBits = n := Nat.mod_eq_of_lt hn
  rw [← BitVec.toNat_inj, toNat_unpackExponent, BitVec.toNat_ofNat, hmod]

lemma unpackMantissa_eq_zero_iff :
    unpackMantissa b = BitVec.ofNat _ 0 ↔ b.toNat % leastNormal = 0 := by
  rw [← BitVec.toNat_inj, toNat_unpackMantissa]
  rfl

/-- The bits of a full mantissa, behind the one that is not stored. -/
lemma toNat_fullMantissa (m : BitVec 52) : (1#1 ++ m).toNat = leastNormal + m.toNat := by
  rw [BitVec.toNat_append, ← Nat.shiftLeft_add_eq_or_of_lt m.isLt]
  rfl

end Bits

/-- **The bits of a number are read in the same way by its arithmetic.** -/
theorem ofFloat_eq (x : Float) : ofFloat x = .ofUnpacked x.toModel.unpack := by
  obtain ⟨b, hbits, hunpack⟩ : ∃ b : BitVec Format.binary64.numBits,
      x.toBits.toNat = b.toNat ∧ x.toModel.unpack = UnpackedFloat.unpack .binary64 b :=
    ⟨x.toModel.toBits.toBitVec, rfl, rfl⟩
  have hsign := ofBitVec_unpackSign b
  have htop := unpackExponent_eq_ofNat_iff b (n := 2047) (by decide)
  have hbottom := unpackExponent_eq_ofNat_iff b (n := 0) (by decide)
  rw [hunpack, UnpackedFloat.unpack, ofFloat, hbits, ← hsign]
  have hallOnes : -BitVec.ofNat Format.binary64.exponentBits 1 = BitVec.ofNat _ 2047 := rfl
  simp -proj only [hallOnes, htop, hbottom, unpackMantissa_eq_zero_iff]
  split_ifs with hinfinite hzero hleast hnone
  · rfl
  · rfl
  · rw [Reading.ofUnpacked, hnone]
  · rw [Reading.ofUnpacked, toNat_unpackMantissa, hbottom.mpr hleast]
    rfl
  · have hexponent : leastExponent + (b.toNat / leastNormal % 2048 : Nat) - 1 =
        (b.toNat / leastNormal % 2048 : Nat) - 1075 := by
      rw [leastExponent]
      omega
    rw [Reading.ofUnpacked, toNat_fullMantissa, toNat_unpackMantissa, toNat_unpackExponent,
      hexponent]
    rfl

/-- The real number that a mantissa, an exponent and a sign stand for. -/
noncomputable def value (b : Binary) : ℝ :=
  (if b.negative then -1 else 1) * b.mantissa * 2 ^ b.exponent

end Binary

/-- The real number that a 64-bit number stands for, zero if it stands for none. -/
noncomputable def exactValue (x : Float) : ℝ :=
  match Binary.ofFloat x with
  | .finite b => b.value
  | _ => 0

section Sign

variable {x : Float}

lemma exactValue_zero : exactValue 0 = 0 := by
  have hread : Binary.ofFloat 0 = .finite { negative := false, mantissa := 0, exponent := -1074 } :=
    by decide +kernel
  rw [exactValue, hread]
  simp [Binary.value]

/-- **A finite number is above zero if what it stands for is.** -/
theorem exactValue_pos_iff (h : x.isFinite = true) : 0 < exactValue x ↔ 0 < x := by
  rw [isFinite_eq_unpack] at h
  rw [exactValue, Binary.ofFloat_eq, lt_iff_compare, unpack_zero]
  cases hx : x.toModel.unpack with
  | notANumber =>
    rw [hx] at h
    cases h
  | infinity s =>
    rw [hx] at h
    cases h
  | zero s =>
    refine iff_of_false ?_ ?_
    · simp [Binary.Reading.ofUnpacked, Binary.value]
    · cases s <;> exact nofun
  | finite s m e hm =>
    have hpos : (0 : ℝ) < m * 2 ^ e := by positivity
    cases s with
    | positive =>
      refine iff_of_true ?_ rfl
      show 0 < (if (Sign.positive == .negative) = true then (-1 : ℝ) else 1) * m * 2 ^ e
      rw [if_neg (by decide), one_mul]
      exact hpos
    | negative =>
      refine iff_of_false ?_ (fun hlt => nomatch hlt)
      show ¬ 0 < (if (Sign.negative == .negative) = true then (-1 : ℝ) else 1) * m * 2 ^ e
      rw [if_pos (by decide), mul_assoc]
      linarith

end Sign

/-! ## Operations without rounding -/

section Operations

variable {x : Float}

lemma add_eq_pack (x y : Float) :
    x + y = .ofModel (.pack (UnpackedFloat.add .binary64 x.toModel.unpack y.toModel.unpack)) :=
  rfl

lemma mul_eq_pack (x y : Float) :
    x * y = .ofModel (.pack (UnpackedFloat.mul .binary64 x.toModel.unpack y.toModel.unpack)) :=
  rfl

lemma div_eq_pack (x y : Float) :
    x / y = .ofModel (.pack (UnpackedFloat.div .binary64 x.toModel.unpack y.toModel.unpack)) :=
  rfl

/-- Packing gives back what was unpacked. -/
lemma ofModel_pack_unpack (x : Float) : Float.ofModel (.pack x.toModel.unpack) = x :=
  Float.ofBits_toBits x

/-- A number above zero is finite, with its sign and a mantissa, or infinite. -/
lemma unpack_of_pos (h : 0 < x) :
    (∃ m e hm, x.toModel.unpack = .finite .positive m e hm) ∨
      x.toModel.unpack = .infinity .positive := by
  rw [lt_iff_compare, unpack_zero] at h
  cases hx : x.toModel.unpack with
  | notANumber =>
    rw [hx] at h
    cases h
  | infinity s =>
    cases s with
    | positive => exact .inr rfl
    | negative =>
      rw [hx] at h
      cases h
  | zero s =>
    rw [hx] at h
    cases s <;> cases h
  | finite s m e hm =>
    cases s with
    | positive => exact .inl ⟨m, e, hm, rfl⟩
    | negative =>
      rw [hx] at h
      cases h

/-- Nothing is added to a number above zero. -/
lemma zero_add_of_pos (h : 0 < x) : 0 + x = x := by
  have hself := ofModel_pack_unpack x
  rw [add_eq_pack, unpack_zero]
  obtain ⟨m, e, hm, hx⟩ | hx := unpack_of_pos h
  all_goals
    rw [hx] at hself ⊢
    exact hself

lemma add_zero_of_pos (h : 0 < x) : x + 0 = x := by
  have hself := ofModel_pack_unpack x
  rw [add_eq_pack, unpack_zero]
  obtain ⟨m, e, hm, hx⟩ | hx := unpack_of_pos h
  all_goals
    rw [hx] at hself ⊢
    exact hself

/-- No part of a number above zero is zero. -/
lemma zero_div_of_pos (h : 0 < x) : 0 / x = 0 := by
  rw [div_eq_pack, unpack_zero]
  obtain ⟨m, e, hm, hx⟩ | hx := unpack_of_pos h
  all_goals
    rw [hx]
    rfl

/-- The quotient of a mantissa and itself fits into the bits of a mantissa. -/
lemma divCore_self {m : Nat} (hm : 0 < m) (e : Int) :
    divCore .binary64 m e m e = (2 ^ 53, -53, .exact) := by
  have htarget : min (e - e) (Format.binary64.targetExponent
      (totalExponent m e - totalExponent m e)) = -53 := by
    rw [sub_self, sub_self]
    rfl
  have hamount : (e - e - -53).toNat = 53 := by
    rw [sub_self]
    rfl
  unfold divCore
  simp only [htarget, hamount, Nat.shiftLeft_eq, Nat.mul_div_cancel_left _ hm, Nat.mul_mod_right]
  rfl

/-- The quotient of a finite number above zero and itself is one. -/
lemma div_self_of_pos (hfinite : x.isFinite = true) (h : 0 < x) : x / x = 1 := by
  rw [isFinite_eq_unpack] at hfinite
  rw [div_eq_pack]
  obtain ⟨m, e, hm, hx⟩ | hx := unpack_of_pos h
  · rw [hx, UnpackedFloat.div]
    dsimp only
    rw [divCore_self hm]
    rfl
  · rw [hx] at hfinite
    cases hfinite

end Operations

end Placard
