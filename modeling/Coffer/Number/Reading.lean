/-
**How numbers are read.**

A decimal text is read exactly and then rounded once, to the nearest number.  Digits are ASCII
digits everywhere.

Main definitions:

* `Coffer.Reading.natural?`, `Coffer.Reading.integer?` — digits, with an optional sign and a range;
* `Coffer.Reading.inBase?` — digits in a base of at most sixteen;
* `Coffer.Reading.decimal?` — digits with an optional point, as filter amounts are written;
* `Coffer.Reading.digits?` — digits with an optional point and exponent;
* `Coffer.Reading.number?` — the full form of a number: sign, point, exponent, infinity and
  not-a-number.
-/

import Coffer.Number.Binary64

set_option autoImplicit false

namespace Coffer.Reading

/-! ### Whole numbers -/

/-- The value of a nonempty run of digits. -/
def natural? (ds : List Char) : Option Nat :=
  if ds ≠ [] ∧ ds.all Char.isDigit then some (Nat.ofDigitChars 10 ds 0) else none

/-- Splits a sign off: `true` for a minus. -/
def sign : List Char → Bool × List Char
  | '-' :: rest => (true, rest)
  | '+' :: rest => (false, rest)
  | rest => (false, rest)

/-- A number with the given sign. -/
def withSign (negative : Bool) (n : Nat) : Int := if negative then -(n : Int) else n

/-- A signed integer between `lo` and `hi`. -/
def integer? (lo hi : Int) (text : String) : Option Int :=
  let (negative, rest) := sign text.toList
  match natural? rest with
  | none => none
  | some n =>
    let z := withSign negative n
    if lo ≤ z ∧ z ≤ hi then some z else none

/-- A signed integer of 64 bits. -/
def int64? (text : String) : Option Int := integer? (-2 ^ 63) (2 ^ 63 - 1) text

/-- A natural number of 64 bits; a plus sign may stand in front. -/
def nat64? (text : String) : Option Nat :=
  let digits := match text.toList with
    | '+' :: rest => rest
    | rest => rest
  match natural? digits with
  | none => none
  | some n => if n < 2 ^ 64 then some n else none

/-! ### Other bases -/

/-- The value of a hexadecimal digit. -/
def hexDigit? (c : Char) : Option Nat :=
  if '0' ≤ c ∧ c ≤ '9' then some (c.toNat - '0'.toNat)
  else if 'a' ≤ c ∧ c ≤ 'f' then some (c.toNat - 'a'.toNat + 10)
  else if 'A' ≤ c ∧ c ≤ 'F' then some (c.toNat - 'A'.toNat + 10)
  else none

/-- The number that digits stand for in a base. -/
def inBase? (base : Nat) (ds : List Char) : Option Nat :=
  ds.foldlM (fun n c => (hexDigit? c).map (base * n + ·)) 0

/-! ### Decimals -/

/-- The digits before and after a point. A point may stand first or last, but not alone. -/
def pointed? (text : List Char) : Option (List Char × List Char) :=
  let whole := text.takeWhile Char.isDigit
  match text.dropWhile Char.isDigit with
  | [] => if whole = [] then none else some (whole, [])
  | '.' :: frac =>
    if frac.all Char.isDigit ∧ (whole ≠ [] ∨ frac ≠ []) then some (whole, frac) else none
  | _ :: _ => none

/-- The number nearest to `digits * 10^exponent`. Beyond the range of numbers it is infinity or
zero, which the digit count decides before any power is taken. -/
def scaled (negative : Bool) (digits : List Char) (exponent : Int) : Float :=
  let kept := digits.dropWhile (· == '0')
  let n := Nat.ofDigitChars 10 kept 0
  -- the value lies below `10^reach`, and not below a tenth of it
  let reach : Int := kept.length + exponent
  if n = 0 ∨ reach < -400 then Binary64.ofMagnitude negative 0
  else if 400 < reach then Binary64.ofMagnitude negative Binary64.infinity
  else if 0 ≤ exponent then Binary64.ofRatio negative (n * 10 ^ exponent.toNat) 1
  else Binary64.ofRatio negative n (10 ^ (-exponent).toNat)

/-- The number nearest to the digits around a point. -/
def ofPointed (negative : Bool) (parts : List Char × List Char) : Float :=
  scaled negative (parts.1 ++ parts.2) (-(parts.2.length : Int))

/-- An unsigned decimal without an exponent. -/
def decimal? (negative : Bool) (text : List Char) : Option Float :=
  (pointed? text).map (ofPointed negative)

/-! ### Numbers in full -/

/-- The exponent after the letter `e`: digits with an optional sign. -/
def exponent? (text : List Char) : Option Int :=
  let (negative, rest) := sign text
  (natural? rest).map (withSign negative)

/-- An unsigned number in digits, with an optional point and an optional exponent. -/
def digits? (negative : Bool) (text : List Char) : Option Float :=
  let mantissa := text.takeWhile (fun c => c != 'e' && c != 'E')
  match pointed? mantissa, text.drop mantissa.length with
  | none, _ => none
  | some parts, [] => some (ofPointed negative parts)
  | some parts, _ :: tail =>
    -- the digits behind the point are counted into the exponent
    (exponent? tail).map fun e => scaled negative (parts.1 ++ parts.2) (e - parts.2.length)

/-- ASCII lower case, for the words `inf`, `infinity` and `nan`. -/
def word (text : List Char) : String := String.ofList (text.map Char.toLower)

/-- **A number in full:** an optional sign, then digits with an optional point and an optional
exponent, or one of the words `inf`, `infinity` and `nan` in any case. -/
def number? (text : String) : Option Float :=
  let (negative, rest) := sign text.toList
  match word rest with
  | "inf" | "infinity" => some (Binary64.ofMagnitude negative Binary64.infinity)
  | "nan" => some Binary64.nan
  | _ => digits? negative rest

end Coffer.Reading
