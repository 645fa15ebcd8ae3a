/-
**Binary64 numbers as whole multiples of their smallest step.**

Every finite binary64 number is a whole multiple of `2^-1074`, here called a *unit*.  Counting units
turns rounding into one division of natural numbers, and turns the text of a number into the digits
of a natural number: since `2^-1074 = 5^1074 / 10^1074`, a number also is a whole multiple of
`10^-1074`, here called a *grain*.

A magnitude is the 63 bits below the sign, read as a natural number; magnitudes are ordered as the
numbers they stand for.

Main definitions:

* `Coffer.Binary64.units`, `Coffer.Binary64.grains` — the value of a magnitude, counted exactly;
* `Coffer.Binary64.nearest` — the magnitude nearest to a ratio of units, ties to the even one;
* `Coffer.Binary64.ofRatio` — the number nearest to a signed ratio.
-/

set_option autoImplicit false

namespace Coffer

-- a power is the core one, whatever other instances are in scope
attribute [instance (high), default_instance 20000] instPowNat

/-- The quotient of `num` by `den` rounded to the nearest natural number, a half to the even one. -/
def roundHalfEven (num den : Nat) : Nat :=
  let q := num / den
  let r := num % den
  if 2 * r < den then q
  else if den < 2 * r then q + 1
  else q + q % 2

/-- A division without remainder is not rounded. -/
@[simp] theorem roundHalfEven_mul_right (q : Nat) {den : Nat} (h : 0 < den) :
    roundHalfEven (q * den) den = q := by
  simp [roundHalfEven, Nat.mul_div_cancel q h, h]

namespace Binary64

/-! ### Magnitudes -/

/-- The magnitude of infinity: every field bit of the exponent set. -/
def infinity : Nat := 2047 * 2 ^ 52

/-- How many units a finite magnitude is worth. -/
def units (w : Nat) : Nat :=
  let e := w / 2 ^ 52
  let f := w % 2 ^ 52
  if e = 0 then f else (2 ^ 52 + f) * 2 ^ (e - 1)

/-- Grains to the unit. -/
def grainsPerUnit : Nat := 5 ^ 1074

/-- Grains to the number one. -/
def grainsPerOne : Nat := 10 ^ 1074

/-- How many grains a finite magnitude is worth. -/
def grains (w : Nat) : Nat := units w * grainsPerUnit

/-- The magnitude nearest to `num / den` units, of two equally near ones the even one, and infinity
beyond the greatest finite magnitude. -/
def nearest (num den : Nat) : Nat :=
  -- subtraction stops at zero, and with it the spacing of the subnormal numbers
  let e := (num / den).log2 - 52
  min (e * 2 ^ 52 + roundHalfEven num (den * 2 ^ e)) infinity

@[simp] theorem units_zero : units 0 = 0 := rfl

/-! ### Numbers -/

/-- The number with the given sign and magnitude. -/
def ofMagnitude (negative : Bool) (w : Nat) : Float :=
  Float.ofBits (UInt64.ofNat ((if negative then 2 ^ 63 else 0) + w))

/-- The magnitude of a number, the same for a number and its negation. -/
def magnitude (x : Float) : Nat := x.toBits.toNat % 2 ^ 63

/-- Whether the sign bit of a number is set; negative zero and some not-a-number values have it. -/
def isNegative (x : Float) : Bool := decide (2 ^ 63 ≤ x.toBits.toNat)

/-- The number nearest to `num / den`, negated if asked. -/
def ofRatio (negative : Bool) (num den : Nat) : Float :=
  ofMagnitude negative (nearest (num * 2 ^ 1074) den)

/-- Positive infinity. -/
def inf : Float := ofMagnitude false infinity

/-- Not a number. -/
def nan : Float := ofMagnitude false (infinity + 2 ^ 51)

end Binary64

end Coffer
