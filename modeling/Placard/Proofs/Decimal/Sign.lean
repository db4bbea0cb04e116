import Mathlib.Tactic.Lemma
import Placard.Document.Basic

set_option relaxedAutoImplicit false
set_option autoImplicit false

/-!
# Signs of numbers

A 64-bit number is no number, infinite, one of two zeros, or finite with a sign. This file compares
each of these with zero, and with the size with which a chart draws it: only the numbers that are
finite and not below zero are drawn with their own size.

## Main results

* `Placard.not_lt_zero_iff`: a finite number that is not below zero is above it or equal to it.
* `Placard.beq_clamped_iff`: the numbers that are drawn with their own size.
-/

namespace Placard

open Float.Model

section Sign

variable {x y : Float}

lemma unpack_zero : (0 : Float).toModel.unpack = .zero .positive := rfl

/-! All comparisons go back to one that has no result if there is no number on one of the sides. -/

lemma lt_iff_compare : x < y ↔ x.toModel.unpack.compare y.toModel.unpack = some .lt := by
  rw [← beq_iff_eq]
  exact ⟨of_decide_eq_true, decide_eq_true⟩

lemma le_iff_compare :
    x ≤ y ↔ (x.toModel.unpack.compare y.toModel.unpack).any (·.isLE) = true :=
  ⟨of_decide_eq_true, decide_eq_true⟩

lemma beq_iff_compare : (x == y) = true ↔ x.toModel.unpack.compare y.toModel.unpack = some .eq := by
  have hbeq : (x == y) = (x.toModel.unpack.compare y.toModel.unpack == some .eq) := rfl
  rw [hbeq, beq_iff_eq]

lemma isFinite_eq_unpack (x : Float) : x.isFinite = x.toModel.unpack.isFinite := rfl

/-- A finite number that is not below zero is above it or equal to it. -/
lemma not_lt_zero_iff (h : x.isFinite = true) : ¬ x < 0 ↔ 0 ≤ x := by
  rw [isFinite_eq_unpack] at h
  rw [lt_iff_compare, le_iff_compare, unpack_zero]
  cases hx : x.toModel.unpack with
  | notANumber =>
    rw [hx] at h
    cases h
  | infinity s =>
    rw [hx] at h
    cases h
  | zero s => cases s <;> decide
  | finite s m e hm =>
    cases s with
    | positive => exact iff_of_true (fun hlt => nomatch hlt) rfl
    | negative => exact iff_of_false (fun hnot => hnot rfl) (fun hle => nomatch hle)

/-- A number above zero is its own size: it is a number. -/
lemma beq_self_of_zero_lt (h : 0 < x) : (x == x) = true := by
  rw [lt_iff_compare, unpack_zero] at h
  rw [beq_iff_compare]
  cases hx : x.toModel.unpack with
  | notANumber =>
    rw [hx] at h
    cases h
  | infinity s => cases s <;> rfl
  | zero s => cases s <;> rfl
  | finite s m e hm =>
    have hself : (compare e e).then (compare m m) = .eq := by
      have hexponent : compare e e = .eq := Std.ReflOrd.compare_self
      have hmantissa : compare m m = .eq := Std.ReflOrd.compare_self
      rw [hexponent, hmantissa]
      rfl
    cases s with
    | positive => exact congrArg some hself
    | negative => exact congrArg (some ·.swap) hself

/-- Zero is the size of the two zeros only. -/
lemma zero_beq_iff : ((0 : Float) == x) = true ↔ x.isFinite = true ∧ 0 ≤ x ∧ ¬ 0 < x := by
  rw [beq_iff_compare, isFinite_eq_unpack, lt_iff_compare, le_iff_compare, unpack_zero]
  cases x.toModel.unpack with
  | notANumber => decide
  | infinity s => cases s <;> decide
  | zero s => cases s <;> decide
  | finite s m e hm =>
    cases s with
    | positive => exact iff_of_false (fun heq => nomatch heq) (fun hzero => hzero.2.2 rfl)
    | negative => exact iff_of_false (fun heq => nomatch heq) (fun hzero => nomatch hzero.2.1)

lemma float_le_of_lt (h : x < y) : x ≤ y := by
  rw [lt_iff_compare] at h
  rw [le_iff_compare, h]
  rfl

/-- **The numbers that are drawn with their own size** are those that are finite and not below
zero. All others are drawn as zero, which they are not. -/
theorem beq_clamped_iff :
    ((if x.isFinite && 0 < x then x else 0) == x) = true ↔ x.isFinite = true ∧ 0 ≤ x := by
  by_cases hsized : x.isFinite = true ∧ 0 < x
  · have hcondition : (x.isFinite && decide (0 < x)) = true := by simpa using hsized
    rw [if_pos hcondition]
    exact ⟨fun _ => ⟨hsized.1, float_le_of_lt hsized.2⟩, fun _ => beq_self_of_zero_lt hsized.2⟩
  · have hcondition : ¬ (x.isFinite && decide (0 < x)) = true := by simpa using hsized
    rw [if_neg hcondition, zero_beq_iff]
    constructor
    · rintro ⟨hfinite, hle, -⟩
      exact ⟨hfinite, hle⟩
    · rintro ⟨hfinite, hle⟩
      exact ⟨hfinite, hle, fun hlt => hsized ⟨hfinite, hlt⟩⟩

end Sign

end Placard
