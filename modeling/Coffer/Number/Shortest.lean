/-
**The shortest decimal that reads back as a number.**

A magnitude is written with as few significant digits as still single it out.  With `n` digits only
two decimals can do: the ones next below and next above the exact value on the grid of `n` digits.
They are tried on coarser grids first, and on the finest grid the exact value itself is left, so the
search always ends with a decimal that reads back.

Main definitions:

* `Coffer.Binary64.Tie` — which of two equally near decimals is taken;
* `Coffer.Binary64.shortest` — the decimal, counted in grains.

Main results:

* `Coffer.Binary64.search_of_not_reads` — a grid that has no decimal to offer is passed over.
-/

import Coffer.Number.Binary64

set_option autoImplicit false

namespace Coffer.Binary64

/-- Which of two shortest decimals is taken when both are equally near. -/
inductive Tie where
  /-- The greater one. -/
  | up
  /-- The one whose last digit is even. -/
  | even
  deriving DecidableEq, Repr

/-- Whether `g` grains read back as the magnitude `w`. -/
def reads (w g : Nat) : Bool := nearest g grainsPerUnit == w

/-- Of the neighbours `lower` and `lower + grid` of the exact value `exact`, the nearer one. -/
def nearer (tie : Tie) (exact lower grid : Nat) : Nat :=
  let below := exact - lower
  let above := lower + grid - exact
  if below < above then lower
  else if above < below then lower + grid
  else match tie with
    | .up => lower + grid
    | .even => if (lower / grid) % 2 = 0 then lower else lower + grid

/-- What a grid offers, told which of the neighbours `lower` and `lower + grid` of the exact value
read back. -/
def offer (tie : Tie) (exact lower grid : Nat) : Bool → Bool → Option Nat
  | true, true => some (nearer tie exact lower grid)
  | true, false => some lower
  | false, true => some (lower + grid)
  | false, false => none

/-- The decimal offered by one grid, if it has one that reads back. -/
def onGrid (tie : Tie) (w exact grid : Nat) : Option Nat :=
  let lower := exact / grid * grid
  -- rounding is monotone, so if any point of the grid reads back, one of these two does
  offer tie exact lower grid (reads w lower) (reads w (lower + grid))

/-- The first decimal that reads back on the grids `10^k`, `10^(k-1)`, …, and the exact value where
none does. -/
def search (tie : Tie) (w exact : Nat) : Nat → Nat
  | 0 => exact
  | k + 1 => (onGrid tie w exact (10 ^ (k + 1))).getD (search tie w exact k)

/-- A grid that has no decimal to offer is passed over. -/
theorem search_of_not_reads {tie : Tie} {w exact k : Nat}
    (h : onGrid tie w exact (10 ^ (k + 1)) = none) :
    search tie w exact (k + 1) = search tie w exact k := by
  simp [search, h]

/-- The number of decimal digits of a natural number. -/
def digitCount (n : Nat) : Nat := (Nat.toDigits 10 n).length

/-- **The shortest decimal that reads back as the magnitude `w`,** counted in grains. -/
def shortest (tie : Tie) (w : Nat) : Nat :=
  let exact := grains w
  search tie w exact (digitCount exact - 1)

end Coffer.Binary64
