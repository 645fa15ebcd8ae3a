/-
**Rounding to the nearest magnitude.**

`Coffer.Binary64.nearest` rounds a ratio of natural numbers to a magnitude.  It depends on the ratio
alone, leaves the ratios alone that are magnitudes already, and is extreme only at extreme ratios.
The search for the shortest decimal stops at decimals that round back, whichever grid they are on.

Main results:

* `Coffer.Binary64.nearest_congr` — equal ratios have the same nearest magnitude;
* `Coffer.Binary64.nearest_units` — a finite magnitude is the nearest one to itself;
* `Coffer.Binary64.nearest_of_small`, `Coffer.Binary64.nearest_of_large` — ratios below half a unit
  round to zero, and ratios far beyond the finite magnitudes to infinity;
* `Coffer.Binary64.nearest_shortest` — **the shortest decimal rounds back** to its magnitude.
-/

import Coffer.Number.Shortest

set_option autoImplicit false

namespace Coffer

/-- Rounding a quotient depends on the ratio alone. -/
theorem roundHalfEven_mul_mul_right (num den : Nat) {c : Nat} (hc : 0 < c) :
    roundHalfEven (num * c) (den * c) = roundHalfEven num den := by
  have hlt : ∀ a b : Nat, 2 * (a * c) < b * c ↔ 2 * a < b := by
    intro a b
    rw [← Nat.mul_assoc]
    exact Nat.mul_lt_mul_right hc
  have hgt : ∀ a b : Nat, b * c < 2 * (a * c) ↔ b < 2 * a := by
    intro a b
    rw [← Nat.mul_assoc]
    exact Nat.mul_lt_mul_right hc
  simp only [roundHalfEven, Nat.mul_div_mul_right _ _ hc, Nat.mul_mod_mul_right, hlt, hgt]

/-- A quotient below one half rounds to zero. -/
theorem roundHalfEven_eq_zero {num den : Nat} (h : 2 * num < den) : roundHalfEven num den = 0 := by
  have hdiv : num / den = 0 := Nat.div_eq_of_lt (by omega)
  have hmod : num % den = num := Nat.mod_eq_of_lt (by omega)
  simp [roundHalfEven, hdiv, hmod, h]

namespace Binary64

/-! ### The ratio alone -/

theorem nearest_mul_mul_right (num den : Nat) {c : Nat} (hc : 0 < c) :
    nearest (num * c) (den * c) = nearest num den := by
  have hshift : ∀ e : Nat, den * c * 2 ^ e = den * 2 ^ e * c := fun e => Nat.mul_right_comm _ _ _
  simp only [nearest, Nat.mul_div_mul_right _ _ hc, hshift, roundHalfEven_mul_mul_right _ _ hc]

/-- **Equal ratios have the same nearest magnitude.** -/
theorem nearest_congr {a b a' b' : Nat} (hb : 0 < b) (hb' : 0 < b') (h : a * b' = a' * b) :
    nearest a b = nearest a' b' := by
  calc nearest a b = nearest (a * b') (b * b') := (nearest_mul_mul_right a b hb').symm
    _ = nearest (a' * b) (b' * b) := by rw [h, Nat.mul_comm b b']
    _ = nearest a' b' := nearest_mul_mul_right a' b' hb

/-! ### Magnitudes round to themselves -/

/-- Rounding a whole number of units, which are laid out on the grid of its power of two. -/
theorem nearest_mul_right (n : Nat) {d : Nat} (hd : 0 < d) :
    nearest (n * d) d =
      min ((n.log2 - 52) * 2 ^ 52 + roundHalfEven n (2 ^ (n.log2 - 52))) infinity := by
  have h : d * 2 ^ (n.log2 - 52) = 2 ^ (n.log2 - 52) * d := Nat.mul_comm _ _
  simp only [nearest, Nat.mul_div_cancel n hd, h, roundHalfEven_mul_mul_right _ _ hd]

/-- **A finite magnitude is the nearest one to itself.** -/
theorem nearest_units {w d : Nat} (hw : w < infinity) (hd : 0 < d) :
    nearest (units w * d) d = w := by
  have hsplit : w = w / 2 ^ 52 * 2 ^ 52 + w % 2 ^ 52 := by omega
  have hf : w % 2 ^ 52 < 2 ^ 52 := Nat.mod_lt _ (by decide)
  rw [nearest_mul_right _ hd]
  unfold units
  generalize w / 2 ^ 52 = e at *
  generalize w % 2 ^ 52 = f at *
  by_cases he : e = 0
  · -- a subnormal number is its own count of units
    have hlog : f.log2 - 52 = 0 := by
      by_cases h0 : f = 0
      · simp [h0]
      · have := (Nat.log2_lt h0).2 hf
        omega
    have hround : roundHalfEven f 1 = f := by
      have h := roundHalfEven_mul_right f Nat.one_pos
      rwa [Nat.mul_one] at h
    simp only [he, if_true, hlog, Nat.pow_zero, hround]
    omega
  · obtain ⟨k, rfl⟩ : ∃ k, e = k + 1 := ⟨e - 1, by omega⟩
    have hlog : ((2 ^ 52 + f) * 2 ^ k).log2 = 52 + k := by
      refine (Nat.log2_eq_iff (Nat.mul_ne_zero (by omega) (by simp))).2 ⟨?_, ?_⟩
      · rw [Nat.pow_add]
        exact Nat.mul_le_mul_right _ (by omega)
      · rw [show 52 + k + 1 = 53 + k by omega, Nat.pow_add]
        exact Nat.mul_lt_mul_of_pos_right (by omega) (Nat.two_pow_pos k)
    have hexp : 52 + k - 52 = k := by omega
    simp only [he, if_false, Nat.add_sub_cancel, hlog, hexp,
      roundHalfEven_mul_right _ (Nat.two_pow_pos k)]
    omega

/-! ### Extreme ratios -/

/-- A ratio below half a unit rounds to zero. -/
theorem nearest_of_small {num den : Nat} (h : 2 * num < den) : nearest num den = 0 := by
  have hdiv : num / den = 0 := Nat.div_eq_of_lt (by omega)
  simp [nearest, hdiv, roundHalfEven_eq_zero h]

/-- A ratio far beyond the finite magnitudes rounds to infinity. -/
theorem nearest_of_large {num den e : Nat} (hd : 0 < den) (he : 2100 ≤ e)
    (h : den * 2 ^ e ≤ num) : nearest num den = infinity := by
  have hq : 2 ^ e ≤ num / den := (Nat.le_div_iff_mul_le hd).2 (by rwa [Nat.mul_comm])
  have hne : num / den ≠ 0 := by
    have := Nat.two_pow_pos e
    omega
  have hlog : e ≤ (num / den).log2 := (Nat.le_log2 hne).2 hq
  have hmin : infinity ≤ ((num / den).log2 - 52) * 2 ^ 52 := Nat.mul_le_mul_right _ (by omega)
  exact Nat.min_eq_right (Nat.le_trans hmin (Nat.le_add_right _ _))

/-! ### The shortest decimal -/

theorem grainsPerUnit_pos : 0 < grainsPerUnit := by
  unfold grainsPerUnit
  generalize 1074 = n
  exact Nat.pow_pos (by decide)

/-- There are `2 ^ 1074` units to the number one. -/
theorem grainsPerUnit_mul : grainsPerUnit * 2 ^ 1074 = grainsPerOne := by
  unfold grainsPerUnit grainsPerOne
  generalize 1074 = n
  rw [← Nat.mul_pow]

theorem mul_grainsPerUnit (n : Nat) : n * 2 ^ 1074 * grainsPerUnit = n * grainsPerOne := by
  rw [← grainsPerUnit_mul]
  generalize grainsPerUnit = u
  rw [Nat.mul_assoc, Nat.mul_comm u]

theorem nearer_eq_or (tie : Tie) (exact lower grid : Nat) :
    nearer tie exact lower grid = lower ∨ nearer tie exact lower grid = lower + grid := by
  simp only [nearer]
  repeat' split
  all_goals simp

/-- What a grid offers passes the test that was put to its two neighbours. -/
theorem test_of_offer {tie : Tie} {exact lower grid g : Nat} {test : Nat → Bool}
    (h : offer tie exact lower grid (test lower) (test (lower + grid)) = some g) :
    test g = true := by
  cases hlow : test lower <;> cases hhigh : test (lower + grid) <;> rw [hlow, hhigh] at h
  case false.false => cases h
  case false.true => rw [← Option.some.inj h, hhigh]
  case true.false => rw [← Option.some.inj h, hlow]
  case true.true =>
    rcases nearer_eq_or tie exact lower grid with hn | hn
    · rw [← Option.some.inj h, hn, hlow]
    · rw [← Option.some.inj h, hn, hhigh]

theorem reads_of_onGrid {tie : Tie} {w exact grid g : Nat} (h : onGrid tie w exact grid = some g) :
    reads w g = true := by
  unfold onGrid at h
  exact test_of_offer h

/-- The search keeps to decimals that read back. -/
theorem reads_search {tie : Tie} {w exact : Nat} (h : reads w exact = true) (k : Nat) :
    reads w (search tie w exact k) = true := by
  induction k with
  | zero => exact h
  | succ k ih =>
      unfold search
      cases hg : onGrid tie w exact (10 ^ (k + 1)) with
      | none => exact ih
      | some g => exact reads_of_onGrid hg

theorem reads_grains {w : Nat} (hw : w < infinity) : reads w (grains w) = true := by
  rw [reads, grains, nearest_units hw grainsPerUnit_pos]
  exact beq_self_eq_true w

/-- **The shortest decimal rounds back** to its magnitude. -/
theorem nearest_shortest (tie : Tie) {w : Nat} (hw : w < infinity) :
    nearest (shortest tie w) grainsPerUnit = w :=
  eq_of_beq (reads_search (reads_grains hw) _)

end Binary64

end Coffer
