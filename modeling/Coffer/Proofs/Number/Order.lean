/-
**Comparing amounts.**

Amounts are compared by their sign and size, and what is not a number compares with nothing.  So of
a number that is not at most zero one knows that it is greater, and a number equals itself; of what
is not a number one knows neither.  The infinities lie beyond all finite numbers, and infinitely far
from each of them.

Main results:

* `Coffer.Binary64.beq_self` — a number equals itself;
* `Coffer.Binary64.lt_of_not_le_zero` — a number that is not at most zero is greater than zero;
* `Coffer.Binary64.not_inf_le`, `Coffer.Binary64.not_le_negInf` — **no finite number is as great, or
  as small, as an infinity;**
* `Coffer.Binary64.not_abs_inf_sub_lt` — nor is one near to it.
-/

import Coffer.Number.Binary64

set_option autoImplicit false

namespace Coffer.Binary64

open Float.Model (UnpackedFloat)
open Float.Model.UnpackedFloat (unpackExponent unpackMantissa)

variable {x y : Float}

/-- How one amount compares with another, if both are numbers. -/
def order (x y : Float) : Option Ordering := x.toModel.unpack.compare y.toModel.unpack

theorem lt_iff_order : x < y ↔ order x y = some .lt := by
  show decide (x.toModel < y.toModel) = true ↔ _
  rw [decide_eq_true_iff]
  exact beq_iff_eq

theorem le_iff_order : x ≤ y ↔ order x y = some .lt ∨ order x y = some .eq := by
  have hany : x ≤ y ↔ (order x y).any Ordering.isLE = true := by
    show decide (x.toModel ≤ y.toModel) = true ↔ _
    rw [decide_eq_true_iff]
    rfl
  rw [hany]
  rcases order x y with _ | o
  · simp
  · cases o <;> simp

theorem beq_iff_order : (x == y) = true ↔ order x y = some .eq := by
  show (order x y == some .eq) = true ↔ _
  rw [beq_iff_eq]

/-- A number is infinite, zero or finite. -/
theorem unpack_ne_of_number (h : x.isNaN = false) : x.toModel.unpack ≠ .notANumber := by
  intro heq
  have hnan : x.toModel.unpack.isNaN = true := by rw [heq]; rfl
  exact Bool.false_ne_true (h.symm.trans hnan)

theorem unpack_zero : (0 : Float).toModel.unpack = .zero .positive := rfl

/-- **A number equals itself.** -/
theorem beq_self (h : x.isNaN = false) : (x == x) = true := by
  have hne := unpack_ne_of_number h
  rw [beq_iff_order, order]
  cases hx : x.toModel.unpack with
  | notANumber => exact absurd hx hne
  | infinity sign => cases sign <;> rfl
  | zero sign => cases sign <;> rfl
  | finite sign mantissa exponent hpos =>
      have hsize : (compare exponent exponent).then (compare mantissa mantissa) = .eq := by simp
      cases sign with
      | positive => exact congrArg some hsize
      | negative => exact congrArg (fun o => some (Ordering.swap o)) hsize

/-- What equals zero is equalled by zero. -/
theorem zero_beq (h : (x == 0) = true) : ((0 : Float) == x) = true := by
  rw [beq_iff_order, order, unpack_zero] at h ⊢
  cases hx : x.toModel.unpack with
  | notANumber => rw [hx] at h; cases h
  | infinity sign => rw [hx] at h; cases sign <;> cases h
  | zero sign => rfl
  | finite sign mantissa exponent hpos => rw [hx] at h; cases sign <;> cases h

/-- **A number that is not at most zero is greater than zero,** and not equal to it. -/
theorem lt_of_not_le_zero (hnumber : x.isNaN = false) (h : ¬ x ≤ 0) : 0 < x ∧ (x == 0) = false := by
  have hne := unpack_ne_of_number hnumber
  rw [le_iff_order, not_or] at h
  obtain ⟨hless, hequal⟩ := h
  refine ⟨?_, Bool.eq_false_iff.2 fun heq => hequal (beq_iff_order.1 heq)⟩
  rw [order, unpack_zero] at hless hequal
  rw [lt_iff_order, order, unpack_zero]
  cases hx : x.toModel.unpack with
  | notANumber => exact absurd hx hne
  | infinity sign =>
      rw [hx] at hless
      cases sign with
      | positive => rfl
      | negative => exact absurd rfl hless
  | zero sign => rw [hx] at hequal; exact absurd rfl hequal
  | finite sign mantissa exponent hpos =>
      rw [hx] at hless
      cases sign with
      | positive => rfl
      | negative => exact absurd rfl hless

/-! ### Infinities -/

/-- Negative infinity. -/
def negInf : Float := ofMagnitude true infinity

theorem unpack_inf : inf.toModel.unpack = .infinity .positive := rfl

theorem unpack_negInf : negInf.toModel.unpack = .infinity .negative := rfl

/-- The exponent bits lie above the fifty-two bits of the fraction. -/
theorem toNat_unpackExponent (bits : BitVec 64) :
    (@unpackExponent .binary64 bits).toNat = bits.toNat / 2 ^ 52 % 2 ^ 11 := by
  unfold unpackExponent
  simp [Float.Model.Format.binary64, Nat.shiftRight_eq_div_pow]

/-- The exponent bits of a number of finite magnitude are not all set. -/
theorem unpackExponent_ne (h : magnitude x < infinity) :
    @unpackExponent .binary64 x.toModel.toBits.toBitVec ≠ -1#_ := by
  intro hones
  have hexponent := toNat_unpackExponent x.toModel.toBits.toBitVec
  rw [hones] at hexponent
  have hbits : 2047 = x.toBits.toNat / 2 ^ 52 % 2 ^ 11 := hexponent
  unfold magnitude infinity at h
  omega

/-- A number of finite magnitude is not infinite. -/
theorem unpack_ne_infinity (h : magnitude x < infinity) (sign : UnpackedFloat.Sign) :
    x.toModel.unpack ≠ .infinity sign := by
  intro heq
  unfold Float.Model.unpack UnpackedFloat.unpack at heq
  dsimp only at heq
  rw [if_neg (unpackExponent_ne h)] at heq
  by_cases hexponent : @unpackExponent .binary64 x.toModel.toBits.toBitVec = 0#_
  · rw [if_pos hexponent] at heq
    by_cases hmantissa : @unpackMantissa .binary64 x.toModel.toBits.toBitVec = 0#_
    · rw [dif_pos hmantissa] at heq
      cases heq
    · rw [dif_neg hmantissa] at heq
      cases heq
  · rw [if_neg hexponent] at heq
    cases heq

theorem not_inf_lt : ¬ inf < x := by
  rw [lt_iff_order, order, unpack_inf]
  intro h
  cases hx : x.toModel.unpack with
  | infinity sign => rw [hx] at h; cases sign <;> cases h
  | _ => rw [hx] at h; cases h

theorem not_lt_negInf : ¬ x < negInf := by
  rw [lt_iff_order, order, unpack_negInf]
  intro h
  cases hx : x.toModel.unpack with
  | infinity sign => rw [hx] at h; cases sign <;> cases h
  | finite sign mantissa exponent hpos => rw [hx] at h; cases sign <;> cases h
  | _ => rw [hx] at h; cases h

/-- **No finite number is as great as infinity.** -/
theorem not_inf_le (h : magnitude x < infinity) : ¬ inf ≤ x := by
  rw [le_iff_order, order, unpack_inf]
  intro hle
  cases hx : x.toModel.unpack with
  | infinity sign => exact unpack_ne_infinity h sign hx
  | _ => rw [hx] at hle; rcases hle with hle | hle <;> cases hle

/-- **No finite number is as small as negative infinity.** -/
theorem not_le_negInf (h : magnitude x < infinity) : ¬ x ≤ negInf := by
  rw [le_iff_order, order, unpack_negInf]
  intro hle
  cases hx : x.toModel.unpack with
  | infinity sign => exact unpack_ne_infinity h sign hx
  | finite sign mantissa exponent hpos =>
      rw [hx] at hle
      cases sign <;> rcases hle with hle | hle <;> cases hle
  | _ => rw [hx] at hle; rcases hle with hle | hle <;> cases hle

/-- What is taken from infinity leaves infinity, or nothing that is a number. -/
theorem inf_sub (x : Float) : inf - x = inf ∨ inf - x = nan := by
  have hsub : (inf - x).toModel =
      .pack (UnpackedFloat.sub .binary64 (.infinity .positive) x.toModel.unpack) := rfl
  cases hx : x.toModel.unpack with
  | infinity sign =>
      rw [hx] at hsub
      cases sign with
      | positive => exact .inr (congrArg Float.ofModel hsub)
      | negative => exact .inl (congrArg Float.ofModel hsub)
  | notANumber => rw [hx] at hsub; exact .inr (congrArg Float.ofModel hsub)
  | zero sign => rw [hx] at hsub; exact .inl (congrArg Float.ofModel hsub)
  | finite sign mantissa exponent hpos => rw [hx] at hsub; exact .inl (congrArg Float.ofModel hsub)

/-- **Nothing is near to infinity.** -/
theorem not_abs_inf_sub_lt : ¬ (inf - x).abs < y := by
  have hinf : inf.abs = inf := rfl
  have hnan : nan.abs = nan := rfl
  rcases inf_sub x with h | h
  · rw [h, hinf]
    exact not_inf_lt
  · rw [h, hnan, lt_iff_order]
    intro hlt
    cases hlt

end Coffer.Binary64
