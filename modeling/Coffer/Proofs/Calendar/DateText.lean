/-
**A date reads back from its text.**

The text of a date has a year of four digits, or a sign and at least four digits, and two digits
each for month and day.  These numbers are a date in writing, for every year of the calendar.

Main definitions: `Coffer.Date.numerals` — the numbers of the text of a date.

Main results: `Coffer.DateLayout.read_iso` — **a date reads back from its text.**
-/

import Coffer.Proofs.Calendar.DateForms

set_option autoImplicit false

namespace Coffer

open Binary64 (padded isDigit_of_mem_padded length_padded ofDigitChars_padded)
open DateLayout (Numeral Spells)

namespace Date

/-- The year of the text of a date. -/
def yearNumeral (y : Int) : Numeral :=
  if 0 ≤ y ∧ y ≤ 9999 then .plain (padded 4 y.toNat)
  else ⟨[], some (if y < 0 then '-' else '+'), padded 4 y.natAbs⟩

/-- The numbers of the text of a date. -/
def numerals (d : Date) : DatePart → Numeral
  | .year => yearNumeral d.year
  | .month => .plain (padded 2 d.month)
  | .day => .plain (padded 2 d.day)

end Date

namespace DateLayout

theorem padded_ne_nil (k n : Nat) : padded k n ≠ [] := by
  unfold padded
  exact List.append_ne_nil_of_right_ne_nil _ Nat.toDigits_ne_nil

/-- Padded digits of the width of a place. -/
theorem isNumeral_padded {p : DatePart} {n : Nat} (hp : 0 < p.width) (h : n < 10 ^ p.width) :
    Span.IsNumeral 1 p.width (padded p.width n) where
  digits := fun _ hc => isDigit_of_mem_padded hc
  low := List.length_pos_iff.2 (padded_ne_nil _ n)
  high := Nat.le_of_eq (length_padded hp h)

theorem chars_yearNumeral (y : Int) : (Date.yearNumeral y).chars = Date.yearChars y := by
  unfold Date.yearNumeral Date.yearChars
  split <;> rfl

theorem fits_yearNumeral (y : Int) : (Date.yearNumeral y).Fits .year := by
  unfold Date.yearNumeral
  split
  · next hy =>
    exact Numeral.fits_plain
      (isNumeral_padded (by decide) (by simp only [DatePart.width]; omega))
  · refine ⟨nofun, fun c hc => ⟨rfl, ?_⟩, fun _ hc => isDigit_of_mem_padded hc,
      padded_ne_nil _ _, nofun⟩
    cases hc
    split
    · exact .inl rfl
    · exact .inr rfl

theorem value_yearNumeral (y : Int) : (Date.yearNumeral y).value = y := by
  unfold Date.yearNumeral
  split
  · next hy =>
      show ((Nat.ofDigitChars 10 (padded 4 y.toNat) 0 : Nat) : Int) = y
      rw [ofDigitChars_padded, Int.toNat_of_nonneg hy.1]
  · next hy =>
      have hvalue : Span.value (padded 4 y.natAbs) = y.natAbs := ofDigitChars_padded 4 y.natAbs
      unfold Numeral.value
      rw [hvalue]
      by_cases hneg : y < 0
      · simp only [hneg, if_true]
        omega
      · simp [hneg]
        omega

/-- The numbers of the text of a date are the date in writing. -/
theorem spells_numerals (d : Date) : Spells d.numerals d := by
  have hmonth := d.month_bounds
  have hday := d.day_bounds
  refine ⟨fun p => ?_, fun p => ?_⟩
  · cases p with
    | year => exact fits_yearNumeral d.year
    | month =>
      exact Numeral.fits_plain
        (isNumeral_padded (by decide) (by simp only [DatePart.width]; omega))
    | day =>
      exact Numeral.fits_plain
        (isNumeral_padded (by decide) (by simp only [DatePart.width]; omega))
  · cases p with
    | year => exact value_yearNumeral d.year
    | month => exact congrArg Int.ofNat (ofDigitChars_padded 2 d.month)
    | day => exact congrArg Int.ofNat (ofDigitChars_padded 2 d.day)

/-- **A date reads back from its text.** -/
theorem read_iso (d : Date) : iso.read d.isoChars = .ok d := by
  refine (read_eq_ok_iff (.inl rfl)).2 ⟨d.numerals, spells_numerals d, ?_⟩
  show Date.isoChars d = (Date.yearNumeral d.year).chars ++
    '-' :: (padded 2 d.month ++ '-' :: padded 2 d.day)
  rw [chars_yearNumeral, Date.isoChars, Date.monthText, Date.yearText, List.append_assoc,
    List.cons_append]

end DateLayout

end Coffer
