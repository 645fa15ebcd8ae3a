/-
**The periods of a kind partition the calendar, and keys name them.**

A date lies in the window of a period exactly if its own period is that one: the window is a run of
whole months of one year, because the ranks of the dates of a month fill the gap between its first
day and the first day of the next month.  The last period of the calendar is the exception.  No day
comes after it, so it has no end and its window is empty.

A key is a year followed by what cannot be taken for one of its digits, so the year, whatever its
sign and its width, and the part behind it can be told apart again.

Main definitions:

* `Coffer.PeriodKind.Unites` — two dates lie in one month, quarter or year of the calendar;
* `Coffer.Period.IsProper` — a period of whole months of a year of the calendar.

Main results:

* `Coffer.Period.holds_iff` — the window of a period in terms of years and months;
* `Coffer.Period.keyYear_append_inj` — the year of a key is determined by the key;
* `Coffer.Period.ofMonthKey_eq_ok` — a text that is read as a month is the key of the month;
* `Coffer.Period.containing_partitions` — **the periods of a kind partition the calendar, those of a
  longer kind are unions of those of a shorter one, and different periods have different keys.**
-/

import Coffer.Calendar.Period
import Coffer.Proofs.Calendar.DateText

set_option autoImplicit false

namespace Coffer

/-! ### First days of months -/

/-- Every month of the year has a first day. -/
theorem daysInMonth_pos (year : Int) {month : Nat} (h : 1 ≤ month ∧ month ≤ 12) :
    1 ≤ daysInMonth year month := by
  unfold daysInMonth
  grind

namespace Date

variable {year : Int} {month : Nat}

theorem of?_firstOfMonth (hyear : minYear ≤ year ∧ year ≤ maxYear)
    (hmonth : 1 ≤ month ∧ month ≤ 12) :
    of? year month 1 = some (firstOfMonth year month) := by
  have hdate : IsDate year month 1 := ⟨hyear.1, hyear.2, by omega, daysInMonth_pos year hmonth⟩
  unfold firstOfMonth of?
  rw [dif_pos hdate]
  rfl

/-- The place of the first day of a month in the order of the calendar. -/
theorem rank_firstOfMonth (hyear : minYear ≤ year ∧ year ≤ maxYear)
    (hmonth : 1 ≤ month ∧ month ≤ 12) :
    (firstOfMonth year month).rank = year * 372 + ((month - 1) * 31 : Nat) := by
  obtain ⟨hy, hm, hd⟩ := of?_eq_some_iff.1 (of?_firstOfMonth hyear hmonth)
  simp [rank, hy, hm, hd]

/-- Where the calendar has no such year, the first day of the calendar stands in. -/
theorem firstOfMonth_of_maxYear_lt (hyear : maxYear < year) : firstOfMonth year month = min := by
  have hdate : ¬ IsDate year month 1 := by
    rintro ⟨-, hle, -⟩
    omega
  simp [firstOfMonth, of?, hdate]

/-- No date comes before the first day of the calendar. -/
theorem rank_min_le (d : Date) : min.rank ≤ d.rank := by
  have hyear : minYear ≤ d.year := d.isDate.1
  have hmin : min.rank = minYear * 372 := by decide
  rw [hmin]
  unfold rank
  omega

end Date

/-! ### Dates in one period -/

namespace PeriodKind

/-- Two dates lie in the same month, quarter or year of the calendar. -/
def Unites (kind : PeriodKind) (d e : Date) : Prop :=
  match kind with
  | .monthly => d.year = e.year ∧ d.month = e.month
  | .quarterly => d.year = e.year ∧ (d.month - 1) / 3 = (e.month - 1) / 3
  | .annual => d.year = e.year

end PeriodKind

namespace Period

open Binary64 (padded isDigit_of_mem_padded ofDigitChars_padded padded_ofDigitChars
  takeWhile_isDigit_padded dropWhile_isDigit_padded)

/-- The first month of a period is settled by any of the months of the period. -/
theorem firstMonthOf_eq_iff (kind : PeriodKind) {m n : Nat} (hm : 1 ≤ m) (hn : 1 ≤ n) :
    firstMonthOf kind n = firstMonthOf kind m ↔
      firstMonthOf kind m ≤ n ∧ n < firstMonthOf kind m + kind.months := by
  cases kind <;> simp only [firstMonthOf, PeriodKind.months] <;> omega

theorem containing_eq_iff {kind kind' : PeriodKind} {d e : Date} :
    containing kind d = containing kind' e ↔ kind = kind' ∧ kind.Unites d e := by
  have hd := d.month_bounds
  have he := e.month_bounds
  rw [containing, containing, Period.mk.injEq]
  refine and_congr_right fun hkind => ?_
  subst hkind
  cases kind <;> simp only [firstMonthOf, PeriodKind.months, PeriodKind.Unites] <;> omega

/-! ### Windows -/

/-- A period of whole months of a year of the calendar. -/
structure IsProper (p : Period) : Prop where
  year : minYear ≤ p.year ∧ p.year ≤ maxYear
  first : 1 ≤ p.firstMonth
  last : p.firstMonth + p.kind.months ≤ 13

theorem isProper_containing (kind : PeriodKind) (d : Date) : (containing kind d).IsProper where
  year := ⟨d.isDate.1, d.isDate.2.1⟩
  first := Nat.le_add_left _ _
  last := by
    have := d.month_bounds
    cases kind <;> simp only [containing, firstMonthOf, PeriodKind.months] <;> omega

theorem months_pos (kind : PeriodKind) : 1 ≤ kind.months := by
  cases kind <;> decide

variable {p : Period}

theorem IsProper.rank_start (h : p.IsProper) :
    p.start.rank = p.year * 372 + ((p.firstMonth - 1) * 31 : Nat) := by
  have hpos := months_pos p.kind
  exact Date.rank_firstOfMonth h.year ⟨h.first, by have := h.last; omega⟩

/-- The calendar goes on after the period. -/
def Ends (p : Period) : Prop := p.year < maxYear ∨ p.firstMonth + p.kind.months ≤ 12

/-- The window of a period ends where the next month begins, in its own year or with the next. -/
theorem IsProper.rank_stop (h : p.IsProper) (hends : p.Ends) :
    p.stop.rank = p.year * 372 + ((p.firstMonth + p.kind.months - 1) * 31 : Nat) := by
  have hfirst := h.first
  have hlast := h.last
  have hlow := h.year.1
  unfold Ends at hends
  unfold stop
  dsimp only
  split
  · have hnext : p.firstMonth + p.kind.months = 13 := by omega
    rw [hnext, Date.rank_firstOfMonth ⟨by omega, by omega⟩ (by decide)]
    omega
  · exact Date.rank_firstOfMonth h.year ⟨by omega, by omega⟩

/-- A period that reaches the end of the calendar has no end and holds no date. -/
theorem ends_of_holds {e : Date} (h : p.holds e = true) : p.Ends := by
  by_cases hends : p.Ends
  · exact hends
  simp only [Ends, not_or, Int.not_lt, Nat.not_le] at hends
  have hstop : p.stop = Date.min := by
    unfold stop
    dsimp only
    rw [if_pos hends.2, Date.firstOfMonth_of_maxYear_lt (by omega)]
  have hbefore := (holds_eq_true_iff.1 h).2
  have hmin := Date.rank_min_le e
  rw [hstop, Date.lt_def] at hbefore
  omega

/-- **The window of a period:** its months of its year. -/
theorem holds_iff (h : p.IsProper) (hends : p.Ends) (e : Date) :
    p.holds e = true ↔
      e.year = p.year ∧ p.firstMonth ≤ e.month ∧ e.month < p.firstMonth + p.kind.months := by
  have hfirst := h.first
  have hlast := h.last
  have hmonth := e.month_bounds
  have hday := e.day_bounds
  rw [holds_eq_true_iff, Date.le_def, Date.lt_def, h.rank_start, h.rank_stop hends]
  unfold Date.rank
  constructor
  · rintro ⟨hstart, hstop⟩
    have hsame : e.year = p.year := by omega
    omega
  · rintro ⟨hsame, hfrom, hto⟩
    omega

variable {kind : PeriodKind} {d e : Date}

/-- A date lies in the window of a month exactly if it has the year and the month. -/
theorem holds_monthly_iff {year : Int} {month : Nat} (hyear : minYear ≤ year ∧ year < maxYear)
    (hmonth : 1 ≤ month ∧ month ≤ 12) :
    Period.holds ⟨.monthly, year, month⟩ e = true ↔ e.year = year ∧ e.month = month := by
  have hproper : IsProper ⟨.monthly, year, month⟩ :=
    ⟨⟨hyear.1, Int.le_of_lt hyear.2⟩, hmonth.1, Nat.succ_le_succ hmonth.2⟩
  rw [holds_iff hproper (.inl hyear.2)]
  dsimp only [PeriodKind.months]
  omega

/-- A date lies in a period that ends exactly if the period is its own. -/
theorem holds_containing_iff (hends : (containing kind d).Ends) :
    (containing kind d).holds e = true ↔ containing kind e = containing kind d := by
  rw [holds_iff (isProper_containing kind d) hends]
  dsimp only [containing]
  rw [← firstMonthOf_eq_iff kind d.month_bounds.1 e.month_bounds.1, Period.mk.injEq]
  exact ⟨fun h => ⟨rfl, h⟩, And.right⟩

theorem containing_eq_of_holds (h : (containing kind d).holds e = true) :
    containing kind e = containing kind d :=
  (holds_containing_iff (ends_of_holds h)).1 h

/-! ### Keys -/

/-- Padded digits and what follows them can be told apart. -/
theorem padded_append_inj {k k' m n : Nat} {rest rest' : List Char} (hrest : EndsDigits rest)
    (hrest' : EndsDigits rest') (h : padded k m ++ rest = padded k' n ++ rest') :
    m = n ∧ rest = rest' := by
  have hdigits := congrArg (List.takeWhile Char.isDigit) h
  have hbehind := congrArg (List.dropWhile Char.isDigit) h
  rw [takeWhile_isDigit_padded _ _ hrest, takeWhile_isDigit_padded _ _ hrest'] at hdigits
  rw [dropWhile_isDigit_padded _ _ hrest, dropWhile_isDigit_padded _ _ hrest'] at hbehind
  have hvalue := congrArg (Nat.ofDigitChars 10 · 0) hdigits
  simp only [ofDigitChars_padded] at hvalue
  exact ⟨hvalue, hbehind⟩

/-- Padded digits do not begin like something else. -/
theorem padded_append_ne {k n : Nat} {c : Char} {rest rest' : List Char} (hc : c.isDigit = false) :
    padded k n ++ rest ≠ c :: rest' := by
  intro h
  obtain ⟨first, ds, hds⟩ := List.exists_cons_of_ne_nil (DateLayout.padded_ne_nil k n)
  have hfirst : first.isDigit = true := isDigit_of_mem_padded (k := k) (n := n) (by simp [hds])
  rw [hds, List.cons_append, List.cons.injEq] at h
  rw [← h.1, hfirst] at hc
  cases hc

/-- The year of a key, of any sign and width, and what follows it can be told apart. -/
theorem keyYear_append_inj {y z : Int} {rest rest' : List Char} (hrest : EndsDigits rest)
    (hrest' : EndsDigits rest') (h : keyYear y ++ rest = keyYear z ++ rest') :
    y = z ∧ rest = rest' := by
  unfold keyYear at h
  split at h <;> split at h
  · obtain ⟨hvalue, hbehind⟩ := padded_append_inj hrest hrest' h
    exact ⟨by omega, hbehind⟩
  · exact absurd h (padded_append_ne (by decide))
  · exact absurd h.symm (padded_append_ne (by decide))
  · obtain ⟨hvalue, hbehind⟩ := padded_append_inj hrest hrest' (List.cons.inj h).2
    exact ⟨by omega, hbehind⟩

example : keyYear (-5) = "-005".toList ∧ keyYear 12345 = "12345".toList := by decide

/-- What follows the year in the key of a period. -/
def keyTail (p : Period) : List Char :=
  match p.kind with
  | .monthly => '-' :: padded 2 p.firstMonth
  | .quarterly => '-' :: 'Q' :: padded 0 (quarter p.firstMonth)
  | .annual => []

theorem keyChars_eq (p : Period) : p.keyChars = keyYear p.year ++ p.keyTail := by
  unfold keyChars keyTail padded
  cases p.kind <;> simp

theorem endsDigits_keyTail (p : Period) : EndsDigits p.keyTail := by
  unfold keyTail
  cases p.kind
  case monthly => exact endsDigits_cons (by decide) _
  case quarterly => exact endsDigits_cons (by decide) _
  case annual => exact endsDigits_nil

theorem padded_inj {k m n : Nat} (h : padded k m = padded k n) : m = n :=
  (padded_append_inj endsDigits_nil endsDigits_nil (congrArg (· ++ []) h)).1

/-- What follows the year says of which kind the period is and which one of its year. -/
theorem keyTail_containing_inj {kind kind' : PeriodKind} {d e : Date}
    (h : (containing kind d).keyTail = (containing kind' e).keyTail) :
    kind = kind' ∧ firstMonthOf kind d.month = firstMonthOf kind' e.month := by
  cases kind <;> cases kind' <;> simp only [keyTail, containing, List.cons.injEq, true_and] at h ⊢
  case monthly.monthly => exact padded_inj h
  case monthly.quarterly =>
    exact absurd (congrArg (· ++ []) h) (padded_append_ne (by decide))
  case quarterly.monthly =>
    exact absurd (congrArg (· ++ []) h.symm) (padded_append_ne (by decide))
  case quarterly.quarterly =>
    have hquarter := padded_inj h
    simp only [quarter, firstMonthOf, PeriodKind.months] at hquarter ⊢
    omega
  case annual.annual =>
    have hd := d.month_bounds
    have he := e.month_bounds
    simp only [firstMonthOf, PeriodKind.months]
    omega
  all_goals cases h

/-- Different periods have different keys. -/
theorem key_containing_eq_iff {kind kind' : PeriodKind} {d e : Date} :
    (containing kind d).key = (containing kind' e).key ↔
      containing kind d = containing kind' e := by
  refine ⟨fun h => ?_, congrArg key⟩
  have hchars : (containing kind d).keyChars = (containing kind' e).keyChars :=
    String.ofList_injective h
  rw [keyChars_eq, keyChars_eq] at hchars
  obtain ⟨hyear, htail⟩ :=
    keyYear_append_inj (endsDigits_keyTail _) (endsDigits_keyTail _) hchars
  obtain ⟨hkind, hfirst⟩ := keyTail_containing_inj htail
  rw [containing, containing, Period.mk.injEq]
  exact ⟨hkind, hyear, hfirst⟩

/-! ### Keys of months -/

/-- Read digits are the padded digits of the number that was read. -/
theorem eq_padded_of_natural? {ds : List Char} {n : Nat} (h : Reading.natural? ds = some n) :
    ds = padded ds.length n ∧ n < 10 ^ ds.length := by
  unfold Reading.natural? at h
  split at h
  · next hdigits =>
      rw [List.all_eq_true] at hdigits
      cases h
      exact ⟨(padded_ofDigitChars hdigits.1 hdigits.2).symm, ofDigitChars_lt hdigits.2⟩
  · cases h

theorem afterYear?_monthly {year : Nat} {rest : List Char} (h : afterYear? year rest = some p)
    (hkind : p.kind = .monthly) :
    ∃ n, 1 ≤ n ∧ n ≤ 12 ∧ rest = '-' :: padded 2 n ∧ p = ⟨.monthly, year, n⟩ := by
  unfold afterYear? at h
  -- the other keys are those of quarters and years
  grind [eq_padded_of_natural?]

theorem ofKeyChars?_monthly {s : List Char} (h : ofKeyChars? s = some p)
    (hkind : p.kind = .monthly) :
    ∃ year month : Nat, year ≤ 9999 ∧ (1 ≤ month ∧ month ≤ 12) ∧ p = ⟨.monthly, year, month⟩ ∧
      s = padded 4 year ++ '-' :: padded 2 month := by
  obtain ⟨rest, hs⟩ := List.takeWhile_prefix (l := s) (· != '-')
  unfold ofKeyChars? at h
  dsimp only at h
  split at h
  case h_2 => cases h
  case h_1 year hyear =>
    split at h
    case isFalse => cases h
    case isTrue hfour =>
      have hrest : s.drop (s.takeWhile (· != '-')).length = rest := by
        conv => enter [1, 2]; rw [← hs]
        exact List.drop_left
      obtain ⟨month, hlow, hhigh, hmonth, hp⟩ := afterYear?_monthly h hkind
      obtain ⟨hdigits, hbound⟩ := eq_padded_of_natural? hyear
      rw [hfour] at hdigits hbound
      exact ⟨year, month, by omega, ⟨hlow, hhigh⟩, hp, by rw [← hmonth, hrest, ← hdigits, hs]⟩

theorem ofKey_eq_ok_iff {s : String} :
    ofKey s = .ok p ↔ ofKeyChars? (Text.trimChars s.toList) = some p := by
  unfold ofKey
  split
  · next hread => rw [hread, Except.ok.injEq, Option.some_inj]
  · next hread => simp [hread]

theorem ofMonthKey_eq_ok_iff {s : String} :
    ofMonthKey s = .ok p ↔ ofKey s = .ok p ∧ p.kind = .monthly := by
  unfold ofMonthKey
  cases hread : ofKey s with
  | error e => simp
  | ok q =>
      simp only [Except.ok.injEq]
      constructor
      · intro h
        split at h
        · next hkind =>
            cases h
            exact ⟨rfl, hkind⟩
        · cases h
      · rintro ⟨rfl, hkind⟩
        rw [if_pos hkind]

/-- A text that is read as the key of a month is that key, but for blanks around it. -/
theorem ofMonthKey_eq_ok {s : String} (h : ofMonthKey s = .ok p) :
    (∃ year month : Nat, year ≤ 9999 ∧ (1 ≤ month ∧ month ≤ 12) ∧ p = ⟨.monthly, year, month⟩) ∧
      Text.trimChars s.toList = p.keyChars := by
  obtain ⟨hread, hkind⟩ := ofMonthKey_eq_ok_iff.1 h
  obtain ⟨year, month, hyear, hmonth, rfl, htext⟩ :=
    ofKeyChars?_monthly (ofKey_eq_ok_iff.1 hread) hkind
  refine ⟨⟨year, month, hyear, hmonth, rfl⟩, htext.trans ?_⟩
  unfold keyChars keyYear
  dsimp only
  rw [if_pos (Int.natCast_nonneg year), Int.toNat_natCast]

/-! ### The partition -/

/-- A month lies in one quarter. -/
theorem quarterly_eq_of_monthly_eq (h : containing .monthly e = containing .monthly d) :
    containing .quarterly e = containing .quarterly d := by
  rw [containing_eq_iff] at h ⊢
  obtain ⟨-, hyear, hmonth⟩ := h
  exact ⟨rfl, hyear, by rw [hmonth]⟩

/-- A quarter lies in one year. -/
theorem annual_eq_of_quarterly_eq (h : containing .quarterly e = containing .quarterly d) :
    containing .annual e = containing .annual d := by
  rw [containing_eq_iff] at h ⊢
  obtain ⟨-, hyear, -⟩ := h
  exact ⟨rfl, hyear⟩

/-- **The periods of a kind partition the calendar, and different periods have different keys.**
Only the periods of the last year are not promised to hold their dates: the last month, the last
quarter and the last year of the calendar are never over. -/
theorem containing_partitions (kind kind' : PeriodKind) (d d' : Date) :
    (d.year < maxYear →
      (∀ e, (containing kind d).holds e = true ↔ containing kind e = containing kind d) ∧
      (containing kind d).holds d = true ∧
      (∀ e, (containing .monthly d).holds e = true → (containing .quarterly d).holds e = true) ∧
      (∀ e, (containing .quarterly d).holds e = true → (containing .annual d).holds e = true)) ∧
    (containing kind d = containing kind d' ∨
      ∀ e, ¬ ((containing kind d).holds e = true ∧ (containing kind d').holds e = true)) ∧
    ((containing kind d).key = (containing kind' d').key ↔ kind = kind' ∧ kind.Unites d d') ∧
    -- a period is what is told of it
    (containing kind d = containing kind' d' ↔
      kind = kind' ∧ (containing kind d).key = (containing kind' d').key ∧
      (containing kind d).start = (containing kind' d').start ∧
      (containing kind d).stop = (containing kind' d').stop) := by
  refine ⟨fun hyear => ?_, ?_, ?_, ?_⟩
  · have hends : ∀ kind, (containing kind d).Ends := fun _ => .inl hyear
    refine ⟨fun _ => holds_containing_iff (hends kind), (holds_containing_iff (hends kind)).2 rfl,
      fun e h => ?_, fun e h => ?_⟩
    · exact (holds_containing_iff (hends _)).2
        (quarterly_eq_of_monthly_eq (containing_eq_of_holds h))
    · exact (holds_containing_iff (hends _)).2
        (annual_eq_of_quarterly_eq (containing_eq_of_holds h))
  · by_cases hshared : ∃ e, (containing kind d).holds e = true ∧ (containing kind d').holds e = true
    · obtain ⟨e, h, h'⟩ := hshared
      exact .inl ((containing_eq_of_holds h).symm.trans (containing_eq_of_holds h'))
    · exact .inr fun e h => hshared ⟨e, h⟩
  · rw [key_containing_eq_iff, containing_eq_iff]
  · constructor
    · intro h
      exact ⟨congrArg Period.kind h, congrArg key h, congrArg start h, congrArg stop h⟩
    · rintro ⟨-, hkey, -⟩
      exact key_containing_eq_iff.1 hkey

end Period

end Coffer
