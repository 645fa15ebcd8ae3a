/-
**The order of dates by their texts.**

A date is stored as its text, and texts are compared character by character.  The texts of dates of
one year are in the order of the dates.  Years have four digits, or a sign and at least four digits:
as texts, years of more than four digits come before all others, for their sign is the smaller one,
and negative years before those without a sign.  So the texts of two dates are in the order of the
dates if the later year is written without a sign, but among years with a sign they need not be, and
with a year of more than four digits before one of four digits they are in the wrong order.

Main definitions:

* `Coffer.Date.WrittenBefore` — the order of years by their texts.

Main results:

* `Coffer.Date.iso_lt_iff` — **the order of dates by their texts;**
* `Coffer.Date.writtenBefore_iff_of_lt` — **where it is the order of the calendar.**
-/

import Coffer.Proofs.Calendar.DateText
import Coffer.Proofs.Calendar.Periods

set_option autoImplicit false

namespace Coffer

open Binary64 (padded isDigit_of_mem_padded length_padded ofDigitChars_padded)

/-! ### Digits as texts -/

section Digits

variable {xs ys r r' : List Char}

theorem char_lt_iff_toNat_lt {c d : Char} : c < d ↔ c.toNat < d.toNat := Iff.rfl

theorem hyphen_lt_of_isDigit {c : Char} (h : c.isDigit = true) : '-' < c := by
  have hrange := Char.isDigit_iff_toNat.1 h
  exact Nat.lt_of_lt_of_le (by decide : '-'.toNat < 0x30) hrange.1

/-- Digits that a hyphen ends are compared before what follows the hyphen. -/
theorem append_hyphen_lt_iff (hxs : ∀ c ∈ xs, c.isDigit = true) (hys : ∀ c ∈ ys, c.isDigit = true) :
    xs ++ '-' :: r < ys ++ '-' :: r' ↔ xs < ys ∨ xs = ys ∧ r < r' := by
  induction xs generalizing ys with
  | nil =>
      cases ys with
      | nil =>
          simp only [List.nil_append, List.cons_lt_cons_iff, Char.lt_irrefl,
            List.not_lt_nil, true_and, false_or]
      | cons d ys =>
          have hd := hyphen_lt_of_isDigit (hys d (by simp))
          simp [List.cons_lt_cons_iff, hd]
  | cons c xs ih =>
      rw [List.forall_mem_cons] at hxs
      cases ys with
      | nil =>
          have hc := hyphen_lt_of_isDigit hxs.1
          simp [List.cons_lt_cons_iff, List.not_lt_nil, Char.lt_asymm hc, (Char.ne_of_lt hc).symm]
      | cons d ys =>
          rw [List.forall_mem_cons] at hys
          simp only [List.cons_append, List.cons_lt_cons_iff, ih hxs.2 hys.2, List.cons.injEq]
          grind

/-- As many digits are in the order of their values. -/
theorem lt_iff_ofDigitChars_lt (hxs : ∀ c ∈ xs, c.isDigit = true) (hys : ∀ c ∈ ys, c.isDigit = true)
    (hlength : xs.length = ys.length) :
    xs < ys ↔ Nat.ofDigitChars 10 xs 0 < Nat.ofDigitChars 10 ys 0 := by
  induction xs generalizing ys with
  | nil =>
      obtain rfl := List.length_eq_zero_iff.1 hlength.symm
      exact iff_of_false (List.not_lt_nil _) (Nat.lt_irrefl _)
  | cons c xs ih =>
      obtain ⟨d, ys, rfl⟩ := List.exists_cons_of_length_eq_add_one hlength.symm
      rw [List.forall_mem_cons] at hxs hys
      rw [List.length_cons, List.length_cons, Nat.add_right_cancel_iff] at hlength
      have hlow := ofDigitChars_lt hxs.2
      have hlow' := ofDigitChars_lt hys.2
      have hc := Char.isDigit_iff_toNat.1 hxs.1
      have hd := Char.isDigit_iff_toNat.1 hys.1
      have hzero : '0'.toNat = 0x30 := rfl
      rw [List.cons_lt_cons_iff, ih hxs.2 hys.2 hlength, ofDigitChars_cons_zero,
        ofDigitChars_cons_zero, ← hlength, char_lt_iff_toNat_lt, ← Char.toNat_inj]
      rw [← hlength] at hlow'
      -- the digits behind the first are worth less than one of it
      rcases Nat.lt_trichotomy c.toNat d.toNat with h | h | h
      · have hmul : 10 ^ xs.length * (c.toNat - '0'.toNat + 1) ≤
            10 ^ xs.length * (d.toNat - '0'.toNat) :=
          Nat.mul_le_mul_left _ (by omega)
        rw [Nat.mul_succ] at hmul
        omega
      · rw [h]
        omega
      · have hmul : 10 ^ xs.length * (d.toNat - '0'.toNat + 1) ≤
            10 ^ xs.length * (c.toNat - '0'.toNat) :=
          Nat.mul_le_mul_left _ (by omega)
        rw [Nat.mul_succ] at hmul
        omega

theorem padded_lt_padded_iff {k m n : Nat} (hk : 0 < k) (hm : m < 10 ^ k) (hn : n < 10 ^ k) :
    padded k m < padded k n ↔ m < n := by
  rw [lt_iff_ofDigitChars_lt (fun _ => isDigit_of_mem_padded) (fun _ => isDigit_of_mem_padded)
    ((length_padded hk hm).trans (length_padded hk hn).symm), ofDigitChars_padded,
    ofDigitChars_padded]

/-- Padded numbers that a hyphen ends. -/
theorem padded_append_hyphen_lt_iff {k m n : Nat} :
    padded k m ++ '-' :: r < padded k n ++ '-' :: r' ↔
      padded k m < padded k n ∨ m = n ∧ r < r' := by
  rw [append_hyphen_lt_iff (fun _ => isDigit_of_mem_padded) (fun _ => isDigit_of_mem_padded)]
  have hinj : padded k m = padded k n ↔ m = n := ⟨Period.padded_inj, fun h => h ▸ rfl⟩
  rw [hinj]

end Digits

namespace Date

/-! ### Years as texts -/

/-- The place of a year among the years by the sign that is written: years of more than four digits
have a plus sign, negative ones a minus sign, and the others none. -/
def era (year : Int) : Nat := if 9999 < year then 0 else if year < 0 then 1 else 2

/-- **The order of years by their texts:** by sign first, then digit by digit. -/
def WrittenBefore (y z : Int) : Prop :=
  era y < era z ∨ era y = era z ∧ padded 4 y.natAbs < padded 4 z.natAbs

instance (y z : Int) : Decidable (WrittenBefore y z) :=
  inferInstanceAs (Decidable
    (era y < era z ∨ era y = era z ∧ padded 4 y.natAbs < padded 4 z.natAbs))

variable {y z : Int} {d e : Date} {r r' : List Char}

theorem yearChars_of_large (h : 9999 < y) : yearChars y = '+' :: padded 4 y.natAbs := by
  rw [yearChars, if_neg (by omega), if_neg (by omega)]

theorem yearChars_of_neg (h : y < 0) : yearChars y = '-' :: padded 4 y.natAbs := by
  rw [yearChars, if_neg (by omega), if_pos h]

theorem yearChars_of_four (h : 0 ≤ y ∧ y ≤ 9999) : yearChars y = padded 4 y.natAbs := by
  have hnat : y.toNat = y.natAbs := by omega
  rw [yearChars, if_pos h, hnat]

/-- The sign that is written before a year. -/
def mark : Nat → List Char
  | 0 => ['+']
  | 1 => ['-']
  | _ => []

theorem mark_append_lt_iff (n : Nat) : mark n ++ r < mark n ++ r' ↔ r < r' := by
  unfold mark
  split <;> simp

theorem yearChars_eq (y : Int) : yearChars y = mark (era y) ++ padded 4 y.natAbs := by
  unfold era
  split
  · next h => exact yearChars_of_large h
  split
  · next h => exact yearChars_of_neg h
  · exact yearChars_of_four (by omega)

/-- The sign of a year is smaller than any digit, and a plus sign smaller than a minus sign. -/
theorem exists_yearChars_append (y : Int) (r : List Char) :
    ∃ c rest, yearChars y ++ r = c :: rest ∧
      (era y = 0 ∧ c = '+' ∨ era y = 1 ∧ c = '-' ∨ era y = 2 ∧ c.isDigit = true) := by
  unfold era
  by_cases hlarge : 9999 < y
  · rw [yearChars_of_large hlarge, if_pos hlarge]
    exact ⟨_, _, rfl, .inl ⟨rfl, rfl⟩⟩
  by_cases hneg : y < 0
  · rw [yearChars_of_neg hneg, if_neg hlarge, if_pos hneg]
    exact ⟨_, _, rfl, .inr (.inl ⟨rfl, rfl⟩)⟩
  · rw [yearChars_of_four (by omega), if_neg hlarge, if_neg hneg]
    obtain ⟨c, ds, hds⟩ := List.exists_cons_of_ne_nil (DateLayout.padded_ne_nil 4 y.natAbs)
    have hc : c.isDigit = true := isDigit_of_mem_padded (k := 4) (n := y.natAbs) (by simp [hds])
    exact ⟨c, ds ++ r, by rw [hds, List.cons_append], .inr (.inr ⟨rfl, hc⟩)⟩

/-- The texts of years with different signs. -/
theorem yearChars_append_lt_of_era_lt (h : era y < era z) (r r' : List Char) :
    yearChars y ++ r < yearChars z ++ r' := by
  obtain ⟨c, cs, hc, hy⟩ := exists_yearChars_append y r
  obtain ⟨d, ds, hd, hz⟩ := exists_yearChars_append z r'
  rw [hc, hd, List.cons_lt_cons_iff]
  left
  have hplus : '+' < '-' := by decide
  -- only the pairs of signs in their order are left
  rcases hy with ⟨hy, rfl⟩ | ⟨hy, rfl⟩ | ⟨hy, -⟩ <;>
    rcases hz with ⟨hz, rfl⟩ | ⟨hz, rfl⟩ | ⟨hz, hd⟩
  case inl.inr.inl => exact hplus
  case inl.inr.inr => exact Char.lt_trans hplus (hyphen_lt_of_isDigit hd)
  case inr.inl.inr.inr => exact hyphen_lt_of_isDigit hd
  all_goals omega

/-- A year and its negative have different signs. -/
theorem eq_of_natAbs_eq (h : era y = era z) (habs : y.natAbs = z.natAbs) : y = z := by
  unfold era at h
  grind

/-- The texts of years with the same sign. -/
theorem yearChars_append_lt_iff_of_era_eq (h : era y = era z) :
    yearChars y ++ '-' :: r < yearChars z ++ '-' :: r' ↔
      padded 4 y.natAbs < padded 4 z.natAbs ∨ y = z ∧ r < r' := by
  have hsame : y.natAbs = z.natAbs ↔ y = z := ⟨eq_of_natAbs_eq h, fun h => h ▸ rfl⟩
  rw [yearChars_eq, yearChars_eq, h, List.append_assoc, List.append_assoc, mark_append_lt_iff,
    padded_append_hyphen_lt_iff, hsame]

/-- The text of a year decides before what follows the year. -/
theorem yearChars_append_lt_iff :
    yearChars y ++ '-' :: r < yearChars z ++ '-' :: r' ↔ WrittenBefore y z ∨ y = z ∧ r < r' := by
  unfold WrittenBefore
  rcases Nat.lt_trichotomy (era y) (era z) with h | h | h
  · exact iff_of_true (yearChars_append_lt_of_era_lt h _ _) (.inl (.inl h))
  · rw [yearChars_append_lt_iff_of_era_eq h]
    simp only [h, Nat.lt_irrefl, true_and, false_or]
  · have hafter := List.lt_asymm (yearChars_append_lt_of_era_lt h ('-' :: r') ('-' :: r))
    have hne : y ≠ z := by
      rintro rfl
      exact absurd h (Nat.lt_irrefl _)
    refine iff_of_false hafter ?_
    rintro ((h' | ⟨h', -⟩) | ⟨h', -⟩)
    · omega
    · omega
    · exact hne h'

theorem WrittenBefore.asymm (h : WrittenBefore y z) : ¬ WrittenBefore z y := by
  rcases h with h | ⟨h, hdigits⟩
  · rintro (h' | ⟨h', -⟩) <;> omega
  · rintro (h' | ⟨-, hdigits'⟩)
    · omega
    · exact List.lt_asymm hdigits hdigits'

/-! ### Dates as texts -/

/-- The text of a date behind its year. -/
def dayChars (d : Date) : List Char := padded 2 d.month ++ '-' :: padded 2 d.day

theorem isoChars_eq (d : Date) : d.isoChars = yearChars d.year ++ '-' :: d.dayChars := by
  simp [isoChars, monthText, yearText, dayChars]

theorem dayChars_lt_iff :
    d.dayChars < e.dayChars ↔ d.month < e.month ∨ d.month = e.month ∧ d.day < e.day := by
  have hd := d.month_bounds
  have he := e.month_bounds
  have hd' := d.day_bounds
  have he' := e.day_bounds
  unfold dayChars
  rw [padded_append_hyphen_lt_iff, padded_lt_padded_iff (by decide) (by omega) (by omega),
    padded_lt_padded_iff (by decide) (by omega) (by omega)]

/-- The order of the days of one year. -/
theorem lt_iff_of_year_eq (h : d.year = e.year) :
    d < e ↔ d.month < e.month ∨ d.month = e.month ∧ d.day < e.day := by
  have hd := d.month_bounds
  have he := e.month_bounds
  have hd' := d.day_bounds
  have he' := e.day_bounds
  rw [lt_def, rank, rank]
  omega

/-- **The order of dates by their texts:** by the texts of their years, and in one year day by
day. -/
theorem iso_lt_iff : d.iso < e.iso ↔ WrittenBefore d.year e.year ∨ d.year = e.year ∧ d < e := by
  rw [iso, iso, String.lt_iff, String.toList_ofList, String.toList_ofList, isoChars_eq, isoChars_eq,
    yearChars_append_lt_iff]
  refine or_congr_right (and_congr_right fun hyear => ?_)
  rw [dayChars_lt_iff, lt_iff_of_year_eq hyear]

/-- Different dates have different texts. -/
theorem iso_injective (h : d.iso = e.iso) : d = e := by
  have hread := DateLayout.read_iso d
  rw [String.ofList_injective h, DateLayout.read_iso e] at hread
  cases hread
  rfl

/-! ### Where the order by texts is that of the calendar -/

/-- **An earlier year comes before a later one as a text** if the later one is written without a
sign, or if both have the same sign and their digits are in that order. -/
theorem writtenBefore_iff_of_lt (h : y < z) :
    WrittenBefore y z ↔
      (0 ≤ z ∧ z ≤ 9999) ∨ era y = era z ∧ padded 4 y.natAbs < padded 4 z.natAbs := by
  have hera : era y < era z → 0 ≤ z ∧ z ≤ 9999 := by
    unfold era
    grind
  refine ⟨fun hbefore => hbefore.imp_left hera, ?_⟩
  rintro (hz | hsame)
  · have hplain : era z = 2 := by
      rw [era, if_neg (by omega), if_neg (by omega)]
    by_cases hy : 0 ≤ y
    · have hplain' : era y = 2 := by
        rw [era, if_neg (by omega), if_neg (by omega)]
      have hdigits : padded 4 y.natAbs < padded 4 z.natAbs :=
        (padded_lt_padded_iff (by decide) (by omega) (by omega)).2 (by omega)
      exact .inr ⟨hplain'.trans hplain.symm, hdigits⟩
    · have hminus : era y = 1 := by
        rw [era, if_neg (by omega), if_pos (by omega)]
      exact .inl (by omega)
  · exact .inr hsame

/-- Years of more than four digits come as texts before the earlier years. -/
example : WrittenBefore 10000 2024 ∧ WrittenBefore 10000 (-44) ∧ WrittenBefore 100000 99999 := by
  decide

end Date

end Coffer
