/-
**How numbers are written.**

Three layouts share the shortest decimal or the exact value of a number:

* *plain* — the shortest decimal in positional notation, however many zeros that takes, used in
  filter texts and messages;
* *compact* — the shortest decimal with at least one decimal place, in scientific notation outside
  `1e-5 ≤ x < 1e16`, used in JSON reports;
* *cents* — two decimal places of the exact value, a half to the even neighbour, used in listings.

Main definitions: `Coffer.Binary64.plain`, `Coffer.Binary64.compact?`, `Coffer.Binary64.cents`.
-/

import Coffer.Number.Shortest

set_option autoImplicit false

namespace Coffer.Binary64

/-! ### Digits -/

/-- The decimal digits of a natural number, with zeros in front up to `width` digits. -/
def padded (width n : Nat) : List Char :=
  let ds := Nat.toDigits 10 n
  List.replicate (width - ds.length) '0' ++ ds

/-- Drops the zeros at the end. -/
def trimZeros (ds : List Char) : List Char :=
  (ds.reverse.dropWhile (· == '0')).reverse

/-- The decimal places of a count of grains, without zeros at the end. -/
def places (g : Nat) : List Char := trimZeros (padded 1074 (g % grainsPerOne))

/-- The digits before the point of a count of grains. -/
def wholes (g : Nat) : List Char := Nat.toDigits 10 (g / grainsPerOne)

/-- A minus sign in front of a negative number. -/
def signed (negative : Bool) (text : List Char) : List Char :=
  if negative then '-' :: text else text

/-! ### The plain layout -/

/-- A count of grains in positional notation; a whole number has no point. -/
def positional (g : Nat) : List Char :=
  match places g with
  | [] => wholes g
  | ps => wholes g ++ '.' :: ps

/-- **The shortest text that reads back, never with an exponent.** Of two equally near decimals the
greater is taken. -/
def plainChars (x : Float) : List Char :=
  if magnitude x < infinity then signed (isNegative x) (positional (shortest .up (magnitude x)))
  else if magnitude x = infinity then signed (isNegative x) "inf".toList
  else "NaN".toList

/-- The plain text of a number. -/
def plain (x : Float) : String := String.ofList (plainChars x)

/-! ### The compact layout -/

/-- The significant digits of a count of grains and the power of ten of the first of them, counted
so that the value is `0.d₁d₂… * 10^point`. -/
def significant (g : Nat) : List Char × Int :=
  let all := Nat.toDigits 10 g
  (trimZeros all, (all.length : Int) - 1074)

/-- Lays out significant digits: positional while the point falls within sixteen digits or at most
four zeros follow it, scientific otherwise. The exponent has its sign, a plus too. -/
def layOut (ds : List Char) (point : Int) : List Char :=
  let n : Int := ds.length
  if n ≤ point ∧ point ≤ 16 then
    ds ++ List.replicate (point - n).toNat '0' ++ ".0".toList
  else if 0 < point ∧ point ≤ 16 then
    ds.take point.toNat ++ '.' :: ds.drop point.toNat
  else if -5 < point ∧ point ≤ 0 then
    "0.".toList ++ List.replicate (-point).toNat '0' ++ ds
  else
    -- one digit stands in front of the point, and a single digit has no point
    let mantissa := match ds with
      | d :: (e :: rest) => d :: '.' :: e :: rest
      | short => short
    let sign := if point - 1 < 0 then '-' else '+'
    mantissa ++ 'e' :: sign :: Nat.toDigits 10 (point - 1).natAbs

/-- **The compact text of a finite number;** other numbers have none. Of two equally near decimals
the one with an even last digit is taken. -/
def compact? (x : Float) : Option String :=
  if magnitude x = 0 then
    some (String.ofList (signed (isNegative x) "0.0".toList))
  else if magnitude x < infinity then
    let (ds, point) := significant (shortest .even (magnitude x))
    some (String.ofList (signed (isNegative x) (layOut ds point)))
  else none

/-! ### Two decimal places -/

/-- **The number rounded to two decimal places,** a half to the even neighbour. -/
def cents (x : Float) : String :=
  if magnitude x < infinity then
    let n := roundHalfEven (units (magnitude x) * 100) (2 ^ 1074)
    String.ofList
      (signed (isNegative x) (Nat.toDigits 10 (n / 100) ++ '.' :: padded 2 (n % 100)))
  else plain x

end Coffer.Binary64
