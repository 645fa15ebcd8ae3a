/-
**Dates of the Gregorian calendar, extended to all years.**

The calendar runs from 1 January of the year -262143 to 31 December of the year 262142, and has a
year 0.  A date carries the proof that it is in the calendar, so a date that does not exist cannot
be written down.

Dates are ordered by their *rank*, a number that grows with the year, then the month, then the day.

Main definitions:

* `Coffer.Date`, `Coffer.Date.of?` — the dates, and the test that admits them;
* `Coffer.Date.rank` — the place of a date in the order;
* `Coffer.Date.lastOfMonth` — the last day of the month of a date.

Main results:

* `Coffer.Date.of?_eq_some_iff` — a date is found exactly by its own year, month and day;
* `Coffer.Date.rank_injective` — different dates have different ranks.
-/

set_option autoImplicit false

namespace Coffer

/-- Every fourth year is a leap year, but of the hundredth years only every fourth. -/
def isLeapYear (year : Int) : Bool :=
  year % 4 == 0 && (year % 100 != 0 || year % 400 == 0)

/-- The number of days of a month; a month that does not exist has none. -/
def daysInMonth (year : Int) (month : Nat) : Nat :=
  match month with
  | 1 | 3 | 5 | 7 | 8 | 10 | 12 => 31
  | 4 | 6 | 9 | 11 => 30
  | 2 => if isLeapYear year then 29 else 28
  | _ => 0

/-- No month has more than thirty-one days. -/
theorem daysInMonth_le (year : Int) (month : Nat) : daysInMonth year month ≤ 31 := by
  unfold daysInMonth
  split <;> first | omega | (split <;> omega)

/-- A date with a day has a month of the year. -/
theorem month_of_daysInMonth_pos {year : Int} {month : Nat} (h : 0 < daysInMonth year month) :
    1 ≤ month ∧ month ≤ 12 := by
  unfold daysInMonth at h
  split at h <;> omega

/-- The first year of the calendar. -/
def minYear : Int := -262143

/-- The last year of the calendar. -/
def maxYear : Int := 262142

/-- Whether the calendar has the given day. -/
def IsDate (year : Int) (month day : Nat) : Prop :=
  minYear ≤ year ∧ year ≤ maxYear ∧ 1 ≤ day ∧ day ≤ daysInMonth year month

instance (year : Int) (month day : Nat) : Decidable (IsDate year month day) :=
  inferInstanceAs (Decidable (_ ∧ _ ∧ _ ∧ _))

/-- A day of the calendar. -/
structure Date where
  year : Int
  month : Nat
  day : Nat
  isDate : IsDate year month day
  deriving DecidableEq

namespace Date

/-- The date with the given year, month and day, if the calendar has it. -/
def of? (year : Int) (month day : Nat) : Option Date :=
  if h : IsDate year month day then some ⟨year, month, day, h⟩ else none

/-- A date is found exactly by its own year, month and day. -/
theorem of?_eq_some_iff {year : Int} {month day : Nat} {d : Date} :
    of? year month day = some d ↔ d.year = year ∧ d.month = month ∧ d.day = day := by
  unfold of?
  constructor
  · intro h
    split at h
    · cases h; exact ⟨rfl, rfl, rfl⟩
    · cases h
  · rintro ⟨rfl, rfl, rfl⟩
    simp [d.isDate]

@[simp] theorem of?_self (d : Date) : of? d.year d.month d.day = some d :=
  of?_eq_some_iff.2 ⟨rfl, rfl, rfl⟩

/-- The first day of the calendar. -/
def min : Date := ⟨-262143, 1, 1, by decide⟩

theorem month_bounds (d : Date) : 1 ≤ d.month ∧ d.month ≤ 12 := by
  have h : 0 < daysInMonth d.year d.month := by
    have h := d.isDate
    unfold IsDate at h
    omega
  exact month_of_daysInMonth_pos h

theorem day_bounds (d : Date) : 1 ≤ d.day ∧ d.day ≤ 31 := by
  have h := d.isDate
  have := daysInMonth_le d.year d.month
  unfold IsDate at h
  omega

/-! ### Order -/

/-- The place of a date in the order of the calendar. -/
def rank (d : Date) : Int := d.year * 372 + ((d.month - 1 : Nat) * 31 + (d.day - 1 : Nat) : Nat)

/-- Different dates have different ranks. -/
theorem rank_injective {a b : Date} (h : a.rank = b.rank) : a = b := by
  have ham := month_bounds a
  have hbm := month_bounds b
  have had := day_bounds a
  have hbd := day_bounds b
  unfold rank at h
  have hy : a.year = b.year := by omega
  have hm : a.month = b.month := by omega
  have hd : a.day = b.day := by omega
  cases a; cases b
  simp_all

instance : LE Date := ⟨fun a b => a.rank ≤ b.rank⟩
instance : LT Date := ⟨fun a b => a.rank < b.rank⟩
instance (a b : Date) : Decidable (a ≤ b) := inferInstanceAs (Decidable (a.rank ≤ b.rank))
instance (a b : Date) : Decidable (a < b) := inferInstanceAs (Decidable (a.rank < b.rank))

theorem le_def {a b : Date} : a ≤ b ↔ a.rank ≤ b.rank := Iff.rfl
theorem lt_def {a b : Date} : a < b ↔ a.rank < b.rank := Iff.rfl

/-- A date of an earlier year is earlier. -/
theorem lt_of_year_lt {d e : Date} (h : d.year < e.year) : d < e := by
  have hmonth := d.month_bounds
  have hday := d.day_bounds
  rw [lt_def, rank, rank]
  omega

theorem year_le_of_lt {d e : Date} (h : d < e) : d.year ≤ e.year := by
  refine Int.not_lt.1 fun hyear => ?_
  have hback := lt_of_year_lt hyear
  rw [lt_def] at h hback
  omega

/-! ### Months and years -/

/-- The first day of a month. Where the calendar ends before it, its first day stands in. -/
def firstOfMonth (year : Int) (month : Nat) : Date := (of? year month 1).getD min

/-- The last day of the month of a date. The last month of the calendar has no month after it to
count back from, and there the date stands for itself. -/
def lastOfMonth (d : Date) : Date :=
  if d.year = maxYear ∧ d.month = 12 then d
  else (of? d.year d.month (daysInMonth d.year d.month)).getD d

/-- The last day of the year of a date. -/
def lastOfYear (d : Date) : Date := (of? d.year 12 31).getD d

end Date

end Coffer
