/-
**The plain text of a number reads back.**

A finite number is written by its sign and the digits of its shortest decimal, and the amounts of
filters are read by rounding their digits to the nearest number.  The digits stand for a count of
grains that rounds back to the magnitude, and neither of the two shortcuts for very small and very
large decimals is taken for them.

Main results:

* `Coffer.Binary64.ofMagnitude_magnitude` — a number is its sign and its magnitude;
* `Coffer.Binary64.grains_eq_value_mul` — the digits of a decimal stand for its count of grains;
* `Coffer.Reading.scaled_of_nearest` — digits that stand for grains are read as the number these
  grains round to;
* `Coffer.Reading.digits_of_pointed?` — what is read as a decimal is digits around a point;
* `Coffer.Reading.decimal?_positional` — an unsigned decimal reads back;
* `Coffer.Predicate.amount?_plainChars` — **the plain text of a finite number is an amount, and that
  amount is the number.**
-/

import Coffer.Filter.Predicate
import Coffer.Proofs.Number.Digits
import Coffer.Proofs.Number.Nearest
import Mathlib

set_option autoImplicit false

namespace Coffer

namespace Binary64

/-- **A number is its sign and its magnitude.** -/
theorem ofMagnitude_magnitude (x : Float) : ofMagnitude (isNegative x) (magnitude x) = x := by
  have hlt : x.toBits.toNat < 2 ^ 64 := x.toBits.toNat_lt
  have hbits : (if isNegative x = true then 2 ^ 63 else 0) + magnitude x = x.toBits.toNat := by
    simp only [isNegative, magnitude, decide_eq_true_eq]
    split <;> omega
  rw [ofMagnitude, hbits, UInt64.ofNat_toNat, Float.ofBits_toBits]

/-! ### The digits of a decimal -/

theorem isDigit_of_mem_wholes {g : Nat} {c : Char} (h : c ∈ wholes g) : c.isDigit = true :=
  Nat.isDigit_of_mem_toDigits (by decide) (by decide) h

theorem wholes_ne_nil (g : Nat) : wholes g ≠ [] := Nat.toDigits_ne_nil

/-- The places of a decimal with zeros behind them are its places in full. -/
theorem exists_places_append (g : Nat) :
    ∃ k, padded 1074 (g % grainsPerOne) = places g ++ List.replicate k '0' :=
  exists_trimZeros_append _

theorem isDigit_of_mem_places {g : Nat} {c : Char} (h : c ∈ places g) : c.isDigit = true := by
  obtain ⟨k, hk⟩ := exists_places_append g
  refine isDigit_of_mem_padded (k := 1074) (n := g % grainsPerOne) ?_
  rw [hk]
  exact List.mem_append_left _ h

theorem grainsPerOne_pos : 0 < grainsPerOne := by
  unfold grainsPerOne
  generalize 1074 = n
  exact Nat.pow_pos (by decide)

/-- **The digits of a decimal stand for its count of grains:** as many powers of ten as places were
dropped make up the difference. -/
theorem grains_eq_value_mul (g : Nat) :
    ∃ j, (places g).length + j = 1074 ∧
      g = Nat.ofDigitChars 10 (wholes g ++ places g) 0 * 10 ^ j := by
  obtain ⟨j, hj⟩ := exists_places_append g
  have hlt : g % grainsPerOne < 10 ^ 1074 := by
    simpa only [grainsPerOne] using Nat.mod_lt g grainsPerOne_pos
  have hlen : (places g).length + j = 1074 := by
    have h := congrArg List.length hj
    rw [length_padded (by decide) hlt] at h
    simpa using h.symm
  have hplaces : Nat.ofDigitChars 10 (places g) 0 * 10 ^ j = g % grainsPerOne := by
    have h := congrArg (fun ds => Nat.ofDigitChars 10 ds 0) hj
    simp only [ofDigitChars_padded, Nat.ofDigitChars_append, Nat.ofDigitChars_replicate_zero] at h
    rw [h, Nat.mul_comm]
  have hone : grainsPerOne = 10 ^ (places g).length * 10 ^ j := by
    rw [← Nat.pow_add, hlen, grainsPerOne]
  refine ⟨j, hlen, ?_⟩
  have hwholes : Nat.ofDigitChars 10 (wholes g) 0 = g / grainsPerOne :=
    Nat.ofDigitChars_ten_toDigits
  rw [Nat.ofDigitChars_append, hwholes, Nat.ofDigitChars_eq_ofDigitChars_zero, Nat.add_mul, hplaces,
    Nat.mul_right_comm, ← hone]
  exact (Nat.div_add_mod g grainsPerOne).symm

end Binary64

namespace Reading

open Binary64

/-! ### Reading digits -/

theorem two_pow_le_five_pow {m n : Nat} (h : m ≤ 2 * n) : 2 ^ m ≤ 5 ^ n := by
  calc 2 ^ m ≤ 2 ^ (2 * n) := Nat.pow_le_pow_right (by decide) h
    _ = 4 ^ n := Nat.pow_mul 2 2 n
    _ ≤ 5 ^ n := Nat.pow_le_pow_left (by decide) n

/-- A power of five in grains to the unit. -/
theorem grainsPerUnit_mul_pow {i n : Nat} (h : i = 1074 + n) : grainsPerUnit * 5 ^ n = 5 ^ i := by
  unfold grainsPerUnit
  generalize 1074 = m at h ⊢
  rw [h, Nat.pow_add]

/-- A decimal with zeros far behind the point rounds to zero. -/
theorem nearest_of_lt_pow {g i : Nat} (hg : g < 10 ^ i) (hi : i ≤ 673) :
    nearest g grainsPerUnit = 0 := by
  apply nearest_of_small
  obtain ⟨n, hn⟩ : ∃ n, 1074 = i + n := ⟨1074 - i, by omega⟩
  have htwo : 2 ^ (i + 1) ≤ 5 ^ n := two_pow_le_five_pow (by omega)
  calc 2 * g < 2 * 10 ^ i := Nat.mul_lt_mul_of_pos_left hg (by decide)
    _ = 5 ^ i * 2 ^ (i + 1) := by
        rw [Nat.pow_succ, ← Nat.mul_assoc, ← Nat.mul_pow, Nat.mul_comm]
    _ ≤ 5 ^ i * 5 ^ n := Nat.mul_le_mul_left _ htwo
    _ = grainsPerUnit := by rw [grainsPerUnit, hn, Nat.pow_add]

/-- A decimal with very many digits before the point rounds to infinity. -/
theorem nearest_of_pow_le {g i : Nat} (hg : 10 ^ i ≤ g) (hi : 1474 ≤ i) :
    nearest g grainsPerUnit = infinity := by
  obtain ⟨n, hn⟩ : ∃ n, i = 1074 + n := ⟨i - 1074, by omega⟩
  obtain ⟨m, hm⟩ : ∃ m, 2100 ≤ i + m ∧ m ≤ 2 * n := ⟨800, by omega, by omega⟩
  refine nearest_of_large grainsPerUnit_pos hm.1 ?_
  have htwo : 2 ^ m ≤ 5 ^ n := two_pow_le_five_pow hm.2
  calc grainsPerUnit * 2 ^ (i + m) = 2 ^ i * (grainsPerUnit * 2 ^ m) := by
        rw [Nat.pow_add, Nat.mul_left_comm]
    _ ≤ 2 ^ i * (grainsPerUnit * 5 ^ n) := Nat.mul_le_mul_left _ (Nat.mul_le_mul_left _ htwo)
    _ = 2 ^ i * 5 ^ i := by rw [grainsPerUnit_mul_pow hn]
    _ = 10 ^ i := by rw [← Nat.mul_pow]
    _ ≤ g := hg

/-- Without the zeros in front, digits that stand for something are as many as their value needs. -/
theorem pow_length_le_value {ds : List Char} (hds : ∀ c ∈ ds, c.isDigit = true)
    (hne : Nat.ofDigitChars 10 ds 0 ≠ 0) :
    ∃ n, (ds.dropWhile (· == '0')).length = n + 1 ∧ 10 ^ n ≤ Nat.ofDigitChars 10 ds 0 := by
  rw [← ofDigitChars_dropWhile_zero ds] at hne ⊢
  have hmem : ∀ c ∈ ds.dropWhile (· == '0'), c.isDigit = true := isDigit_of_mem_dropWhile hds
  have hhead := List.head?_dropWhile_not (· == '0') ds
  cases hk : ds.dropWhile (· == '0') with
  | nil => simp [hk] at hne
  | cons c rest =>
      rw [hk] at hhead hmem
      exact ⟨rest.length, rfl, le_ofDigitChars (hmem c (by simp)) (by simpa using hhead)⟩

/-- **Digits that stand for grains are read as the number these grains round to.** -/
theorem scaled_of_nearest {negative : Bool} {ds : List Char} {k j g w : Nat}
    (hds : ∀ c ∈ ds, c.isDigit = true) (hkj : k + j = 1074)
    (hg : g = Nat.ofDigitChars 10 ds 0 * 10 ^ j) (hw : w < infinity)
    (hround : nearest g grainsPerUnit = w) :
    scaled negative ds (-(k : Int)) = ofMagnitude negative w := by
  have hratio : nearest (Nat.ofDigitChars 10 ds 0 * 2 ^ 1074) (10 ^ k) = w := by
    rw [← hround, hg]
    refine nearest_congr (Nat.pow_pos (by decide)) grainsPerUnit_pos ?_
    rw [mul_grainsPerUnit, grainsPerOne, ← hkj, Nat.mul_assoc, ← Nat.pow_add, Nat.add_comm]
  have hlt := ofDigitChars_lt (isDigit_of_mem_dropWhile (p := (· == '0')) hds)
  unfold scaled
  simp only [ofDigitChars_dropWhile_zero] at hlt ⊢
  split
  · next hzero =>
      -- no digits but zeros, or too far behind the point
      suffices w = 0 by rw [this]
      rw [← hround]
      rcases hzero with hzero | hreach
      · rw [hg, hzero, Nat.zero_mul]
        exact nearest_of_small grainsPerUnit_pos
      · refine nearest_of_lt_pow (i := (ds.dropWhile (· == '0')).length + j) ?_ (by omega)
        rw [hg, Nat.pow_add]
        exact Nat.mul_lt_mul_of_pos_right hlt (Nat.pow_pos (by decide))
  · next hnz =>
      obtain ⟨n, hn, hle⟩ := pow_length_le_value hds fun h => hnz (.inl h)
      split
      · next hreach =>
          -- too many digits before the point for a finite number
          have hinf : w = infinity := by
            rw [← hround]
            refine nearest_of_pow_le (i := n + j) ?_ (by omega)
            rw [hg, Nat.pow_add]
            exact Nat.mul_le_mul_right _ hle
          omega
      · split
        · next hk =>
            obtain rfl : k = 0 := by omega
            rw [Nat.pow_zero] at hratio
            have hzero : (-((0 : Nat) : Int)).toNat = 0 := rfl
            rw [ofRatio, hzero, Nat.pow_zero, Nat.mul_one, hratio]
        · have hk : (-(-(k : Int))).toNat = k := by omega
          rw [hk, ofRatio, hratio]

/-! ### Reading decimals -/

/-- Digits are a number without a point. -/
theorem pointed?_digits {ds : List Char} (hds : ∀ c ∈ ds, c.isDigit = true) (hne : ds ≠ []) :
    pointed? ds = some (ds, []) := by
  have htake := takeWhile_isDigit_append hds endsDigits_nil
  have hdrop := dropWhile_isDigit_append hds endsDigits_nil
  rw [List.append_nil] at htake hdrop
  simp [pointed?, htake, hdrop, hne]

/-- Digits around a point are a number with a point. -/
theorem pointed?_digits_point {ds es : List Char} (hds : ∀ c ∈ ds, c.isDigit = true)
    (hes : ∀ c ∈ es, c.isDigit = true) (hne : ds ≠ []) :
    pointed? (ds ++ '.' :: es) = some (ds, es) := by
  have hpoint : EndsDigits ('.' :: es) := endsDigits_cons (by decide) es
  have htake := takeWhile_isDigit_append hds hpoint
  have hdrop := dropWhile_isDigit_append hds hpoint
  have hall : es.all Char.isDigit = true := by simpa using hes
  simp only [pointed?, htake, hdrop, hall]
  simp [hne]

/-- What is read as a decimal is digits alone or digits around a point. -/
theorem digits_of_pointed? {s ds es : List Char} (h : pointed? s = some (ds, es)) :
    (∀ c ∈ ds, c.isDigit = true) ∧ (∀ c ∈ es, c.isDigit = true) ∧
      (s = ds ∧ ds ≠ [] ∧ es = [] ∨ s = ds ++ '.' :: es ∧ (ds ≠ [] ∨ es ≠ [])) := by
  have happend := s.takeWhile_append_dropWhile (p := Char.isDigit)
  have hwhole : ∀ c ∈ s.takeWhile Char.isDigit, c.isDigit = true :=
    fun c hc => List.all_eq_true.1 List.all_takeWhile c hc
  unfold pointed? at h
  simp only at h
  split at h
  · next hdrop =>
      rw [hdrop, List.append_nil] at happend
      split at h
      · cases h
      · next hne =>
          cases h
          exact ⟨hwhole, by simp, .inl ⟨happend.symm, hne, rfl⟩⟩
  · next frac hdrop =>
      rw [hdrop] at happend
      split at h
      · next hfrac =>
          cases h
          exact ⟨hwhole, List.all_eq_true.1 hfrac.1, .inr ⟨happend.symm, hfrac.2⟩⟩
      · cases h
  · cases h

/-- A decimal is split at its point, if it has one. -/
theorem pointed?_positional (g : Nat) : pointed? (positional g) = some (wholes g, places g) := by
  have hw : ∀ c ∈ wholes g, c.isDigit = true := fun c hc => isDigit_of_mem_wholes hc
  have hp : ∀ c ∈ places g, c.isDigit = true := fun c hc => isDigit_of_mem_places hc
  unfold positional
  cases hps : places g with
  | nil => exact pointed?_digits hw (wholes_ne_nil g)
  | cons d ps =>
      rw [hps] at hp
      exact pointed?_digits_point hw hp (wholes_ne_nil g)

/-- An unsigned decimal reads back as the number it rounds to. -/
theorem decimal?_positional {negative : Bool} {g w : Nat} (hw : w < infinity)
    (hround : nearest g grainsPerUnit = w) :
    decimal? negative (positional g) = some (ofMagnitude negative w) := by
  obtain ⟨j, hj, hg⟩ := grains_eq_value_mul g
  have hds : ∀ c ∈ wholes g ++ places g, c.isDigit = true := by
    intro c hc
    rcases List.mem_append.1 hc with hc | hc
    · exact isDigit_of_mem_wholes hc
    · exact isDigit_of_mem_places hc
  rw [decimal?, pointed?_positional, Option.map_some, ofPointed,
    scaled_of_nearest hds hj hg hw hround]

end Reading

namespace Predicate

open Binary64

/-- A decimal starts with a digit. -/
theorem positional_eq_cons (g : Nat) : ∃ c rest, positional g = c :: rest ∧ c.isDigit = true := by
  obtain ⟨c, rest, hc⟩ := List.exists_cons_of_ne_nil (wholes_ne_nil g)
  have hdigit : c.isDigit = true := isDigit_of_mem_wholes (g := g) (by simp [hc])
  unfold positional
  cases places g with
  | nil => exact ⟨c, rest, hc, hdigit⟩
  | cons d ps => exact ⟨c, rest ++ '.' :: d :: ps, by simp [hc], hdigit⟩

/-- A text that starts with a digit has no sign in front. -/
theorem sign_of_isDigit {c : Char} {rest : List Char} (h : c.isDigit = true) :
    Reading.sign (c :: rest) = (false, c :: rest) := by
  have hminus : c ≠ '-' := by rintro rfl; exact absurd h (by decide)
  have hplus : c ≠ '+' := by rintro rfl; exact absurd h (by decide)
  simp [Reading.sign, hminus, hplus]

/-- The amount of a sign and a decimal. -/
theorem amount?_signed {negative : Bool} {g w : Nat} (hw : w < infinity)
    (hfinite : magnitude (ofMagnitude negative w) < infinity)
    (hround : nearest g grainsPerUnit = w) :
    amount? (signed negative (positional g)) = some (ofMagnitude negative w) := by
  obtain ⟨c, rest, hc, hdigit⟩ := positional_eq_cons g
  have hread : Reading.decimal? negative (positional g) = some (ofMagnitude negative w) :=
    Reading.decimal?_positional hw hround
  have hsign : Reading.sign (signed negative (positional g)) = (negative, positional g) := by
    cases negative with
    | false => simpa [signed, hc] using sign_of_isDigit hdigit
    | true => rfl
  have hdollar : c ≠ '$' := by rintro rfl; exact absurd hdigit (by decide)
  rw [hc] at hsign hread ⊢
  simp [amount?, hsign, hdollar, hread, hfinite]

/-- **The plain text of a finite number is an amount, and that amount is the number.** -/
theorem amount?_plainChars {x : Float} (h : magnitude x < infinity) :
    amount? (plainChars x) = some x := by
  rw [plainChars, if_pos h, amount?_signed h (by rwa [ofMagnitude_magnitude])
    (nearest_shortest .up h), ofMagnitude_magnitude]

end Predicate

end Coffer
