/-
**The days of a span are those that are written.**

The text of a span writes a year in four digits, perhaps a month of it and perhaps a day of the
month, in one or two digits each.  A day lies in the span that is read from the text exactly if its
year, and its month and its day as far as they are written, are the written ones.  So the first and
the last day of a span enclose neither more nor less than the year, the month or the day that is
meant; the last day of a month depends on the month, and in February on the year.

Main definitions:

* `Coffer.Span.IsNumeral`, `Coffer.Span.Writes` — **the numbers that the text of a span writes.**

Main results:

* `Coffer.Span.fields?_eq_some_iff` — the numbers that are read are those that are written;
* `Coffer.Span.start_le_last` — no span is empty;
* `Coffer.Span.holds_iff_of_writes` — **the days of a span are those that are written.**
-/

import Coffer.Proofs.Calendar.SpanText

set_option autoImplicit false

namespace Coffer

/-! ### Last days -/

namespace Date

variable {d : Date}

/-- The last day of a year in the order of the calendar. -/
theorem rank_lastOfYear (d : Date) : d.lastOfYear.rank = d.year * 372 + 371 := by
  have hdate : IsDate d.year 12 31 := ⟨d.isDate.1, d.isDate.2.1, by decide, Nat.le_refl 31⟩
  simp [lastOfYear, of?, hdate, rank]

/-- The last day of a month in the order of the calendar. -/
theorem rank_lastOfMonth (h : d.year < maxYear) :
    d.lastOfMonth.rank =
      d.year * 372 + ((d.month - 1) * 31 + (daysInMonth d.year d.month - 1) : Nat) := by
  have hday := d.isDate.2.2
  have hdate : IsDate d.year d.month (daysInMonth d.year d.month) :=
    ⟨d.isDate.1, d.isDate.2.1, by omega, Nat.le_refl _⟩
  have hbefore : ¬ (d.year = maxYear ∧ d.month = 12) := by omega
  simp [lastOfMonth, hbefore, of?, hdate, rank]

/-- A date is the day of its month that it says. -/
theorem day_le (d : Date) : d.day ≤ daysInMonth d.year d.month := d.isDate.2.2.2

theorem le_lastOfMonth (d : Date) : d ≤ d.lastOfMonth := by
  have hday := d.day_le
  rw [le_def]
  by_cases hlast : d.year = maxYear ∧ d.month = 12
  · simp [lastOfMonth, hlast]
  · have hdate : IsDate d.year d.month (daysInMonth d.year d.month) :=
      ⟨d.isDate.1, d.isDate.2.1, Nat.le_trans d.day_bounds.1 hday, Nat.le_refl _⟩
    simp [lastOfMonth, hlast, of?, hdate, rank]
    omega

theorem le_lastOfYear (d : Date) : d ≤ d.lastOfYear := by
  have hmonth := d.month_bounds
  have hday := d.day_bounds
  rw [le_def, rank_lastOfYear, rank]
  omega

end Date

namespace Span

/-- **No span is empty.** -/
theorem start_le_last (s : Span) : s.start ≤ s.last := by
  unfold last
  split
  · exact s.start.le_lastOfYear
  · exact s.start.le_lastOfMonth
  · exact Int.le_refl _

/-! ### The days of a year, a month and a day -/

variable {d e : Date}

theorem holds_year_iff (hd : d.month = 1 ∧ d.day = 1) :
    holds ⟨d, .year⟩ e = true ↔ e.year = d.year := by
  have hmonth := e.month_bounds
  have hday := e.day_bounds
  rw [holds_eq_true_iff]
  show d ≤ e ∧ e ≤ d.lastOfYear ↔ _
  rw [Date.le_def, Date.le_def, Date.rank_lastOfYear, Date.rank, Date.rank, hd.1, hd.2]
  omega

theorem holds_month_iff (hd : d.day = 1) (hyear : d.year < maxYear) :
    holds ⟨d, .month⟩ e = true ↔ e.year = d.year ∧ e.month = d.month := by
  have hmonth := e.month_bounds
  have hmonth' := d.month_bounds
  have hday := e.day_bounds
  have hlast := daysInMonth_le d.year d.month
  rw [holds_eq_true_iff]
  show d ≤ e ∧ e ≤ d.lastOfMonth ↔ _
  rw [Date.le_def, Date.le_def, Date.rank_lastOfMonth hyear, Date.rank, Date.rank, hd]
  constructor
  · rintro ⟨hfrom, hto⟩
    have hsame : e.year = d.year := by omega
    omega
  · rintro ⟨hsame, hsame'⟩
    have hle := e.day_le
    rw [hsame, hsame'] at hle ⊢
    omega

theorem holds_day_iff :
    holds ⟨d, .day⟩ e = true ↔ e.year = d.year ∧ e.month = d.month ∧ e.day = d.day := by
  rw [holds_eq_true_iff]
  show d ≤ e ∧ e ≤ d ↔ _
  rw [Date.le_def, Date.le_def]
  constructor
  · rintro ⟨hfrom, hto⟩
    obtain rfl : e = d := Date.rank_injective (Int.le_antisymm hto hfrom)
    exact ⟨rfl, rfl, rfl⟩
  · rintro ⟨hyear, hmonth, hday⟩
    unfold Date.rank
    rw [hyear, hmonth, hday]
    exact ⟨Int.le_refl _, Int.le_refl _⟩

/-! ### What is written -/

/-- A number in digits, between the given counts of them. -/
structure IsNumeral (low high : Nat) (ds : List Char) : Prop where
  digits : ∀ c ∈ ds, c.isDigit = true
  low : low ≤ ds.length
  high : ds.length ≤ high

/-- The number that digits stand for. -/
def value (ds : List Char) : Nat := Nat.ofDigitChars 10 ds 0

/-- **What the text of a span writes:** a year in four digits, and perhaps a month and a day in one
or two digits each, with hyphens between them. -/
inductive Writes : List Char → Nat → Option Nat → Option Nat → Prop
  | year {ys : List Char} : IsNumeral 4 4 ys → Writes ys (value ys) none none
  | month {ys ms : List Char} : IsNumeral 4 4 ys → IsNumeral 1 2 ms →
      Writes (ys ++ '-' :: ms) (value ys) (some (value ms)) none
  | day {ys ms ds : List Char} : IsNumeral 4 4 ys → IsNumeral 1 2 ms → IsNumeral 1 2 ds →
      Writes (ys ++ '-' :: (ms ++ '-' :: ds)) (value ys) (some (value ms)) (some (value ds))

/-- Every text is a run of digits and what comes behind it. -/
theorem exists_digits_append (s : List Char) :
    ∃ ds rest, s = ds ++ rest ∧ (∀ c ∈ ds, c.isDigit = true) ∧ EndsDigits rest := by
  refine ⟨s.takeWhile Char.isDigit, s.dropWhile Char.isDigit, ?_, ?_, ?_⟩
  · exact List.takeWhile_append_dropWhile.symm
  · exact List.all_eq_true.1 List.all_takeWhile
  · intro c hc
    have hnot := List.head?_dropWhile_not Char.isDigit s
    rw [Option.mem_def.1 hc] at hnot
    simpa using hnot

section Numbers

variable {ds rest s : List Char} {y n : Nat} {m k : Option Nat}

/-- What stands behind a number: nothing, or a hyphen and more. -/
def behind : Option (List Char) → List Char
  | none => []
  | some more => '-' :: more

theorem endsDigits_behind (r : Option (List Char)) : EndsDigits (behind r) := by
  cases r with
  | none => exact endsDigits_nil
  | some more => exact endsDigits_hyphen more

theorem pair?_append (hds : ∀ c ∈ ds, c.isDigit = true) (hrest : EndsDigits rest) :
    pair? (ds ++ rest) = if ds.length = 1 ∨ ds.length = 2 then
      match rest with
      | [] => some (value ds, none)
      | '-' :: more => some (value ds, some more)
      | _ :: _ => none
    else none := by
  rw [pair?, takeWhile_isDigit_append hds hrest, dropWhile_isDigit_append hds hrest]
  rfl

/-- A month or a day is read as it is written. -/
theorem pair?_eq_some_iff {r : Option (List Char)} :
    pair? s = some (n, r) ↔ ∃ ds, IsNumeral 1 2 ds ∧ n = value ds ∧ s = ds ++ behind r := by
  constructor
  · intro h
    obtain ⟨ds, rest, rfl, hds, hrest⟩ := exists_digits_append s
    rw [pair?_append hds hrest] at h
    split at h
    case isFalse => cases h
    case isTrue hlength =>
      refine ⟨ds, ⟨hds, by omega, by omega⟩, ?_⟩
      split at h
      · cases h
        exact ⟨rfl, rfl⟩
      · cases h
        exact ⟨rfl, rfl⟩
      · cases h
  · rintro ⟨ds, hds, rfl, rfl⟩
    have hlow := hds.low
    have hhigh := hds.high
    rw [pair?_append hds.digits (endsDigits_behind r), if_pos (by omega)]
    cases r <;> rfl

theorem fields?_append (hds : ∀ c ∈ ds, c.isDigit = true) (hrest : EndsDigits rest) :
    fields? (ds ++ rest) = if ds.length = 4 then
      match rest with
      | [] => some (value ds, none, none)
      | '-' :: more =>
        match pair? more with
        | some (month, none) => some (value ds, some month, none)
        | some (month, some more) =>
          match pair? more with
          | some (day, none) => some (value ds, some month, some day)
          | _ => none
        | none => none
      | _ :: _ => none
    else none := by
  rw [fields?, takeWhile_isDigit_append hds hrest, dropWhile_isDigit_append hds hrest]
  rfl

theorem length_of_isNumeral_year (h : IsNumeral 4 4 ds) : ds.length = 4 :=
  Nat.le_antisymm h.high h.low

/-- **The numbers that are read are those that are written.** -/
theorem fields?_eq_some_iff : fields? s = some (y, m, k) ↔ Writes s y m k := by
  constructor
  · intro h
    obtain ⟨ys, rest, rfl, hys, hrest⟩ := exists_digits_append s
    rw [fields?_append hys hrest] at h
    split at h
    case isFalse => cases h
    case isTrue hlength =>
      have hyear : IsNumeral 4 4 ys := ⟨hys, by omega, by omega⟩
      split at h
      · cases h
        rw [List.append_nil]
        exact .year hyear
      · split at h
        · next hmonth =>
            obtain ⟨ms, hms, rfl, rfl⟩ := pair?_eq_some_iff.1 hmonth
            cases h
            rw [behind, List.append_nil]
            exact .month hyear hms
        · next hmonth =>
            obtain ⟨ms, hms, rfl, rfl⟩ := pair?_eq_some_iff.1 hmonth
            split at h
            · next hday =>
                obtain ⟨ds, hds, rfl, rfl⟩ := pair?_eq_some_iff.1 hday
                cases h
                rw [behind, behind, List.append_nil]
                exact .day hyear hms hds
            · cases h
        · cases h
      · cases h
  · intro h
    cases h with
    | year hys =>
        have hfields := fields?_append hys.digits endsDigits_nil
        rw [List.append_nil] at hfields
        rw [hfields, if_pos (length_of_isNumeral_year hys)]
    | @month ys ms hys hms =>
        have hmonth : pair? ms = some (value ms, none) :=
          pair?_eq_some_iff.2 ⟨ms, hms, rfl, (List.append_nil ms).symm⟩
        rw [fields?_append hys.digits (endsDigits_hyphen ms), if_pos (length_of_isNumeral_year hys)]
        simp only [hmonth]
    | @day ys ms ds hys hms hds =>
        have hmonth : pair? (ms ++ '-' :: ds) = some (value ms, some ds) :=
          pair?_eq_some_iff.2 ⟨ms, hms, rfl, rfl⟩
        have hday : pair? ds = some (value ds, none) :=
          pair?_eq_some_iff.2 ⟨ds, hds, rfl, (List.append_nil ds).symm⟩
        rw [fields?_append hys.digits (endsDigits_hyphen _), if_pos (length_of_isNumeral_year hys)]
        simp only [hmonth, hday]

end Numbers

/-! ### The days of a span -/

variable {s : List Char} {p : Span}

/-- A span that is read has been written. -/
theorem exists_writes_of_read? (h : read? s = some p) : ∃ y m k, Writes s y m k := by
  unfold read? at h
  split at h
  · next hfields => exact ⟨_, _, _, fields?_eq_some_iff.1 hfields⟩
  · next hfields => exact ⟨_, _, _, fields?_eq_some_iff.1 hfields⟩
  · next hfields => exact ⟨_, _, _, fields?_eq_some_iff.1 hfields⟩
  · cases h

/-- **The days of a span are those that are written:** those of the written year, of the written
month if there is one, and the written day if there is one. -/
theorem holds_iff_of_writes (h : read? s = some p) {y : Nat} {m k : Option Nat}
    (hw : Writes s y m k) (e : Date) :
    p.holds e = true ↔ e.year = y ∧ (∀ n ∈ m, e.month = n) ∧ ∀ n ∈ k, e.day = n := by
  have hyear := (isWritten_of_read? h).le
  have hbefore : p.start.year < maxYear := Int.lt_of_le_of_lt hyear (by decide)
  have hfields := fields?_eq_some_iff.2 hw
  unfold read? at h
  rw [hfields] at h
  cases hw with
  | year hys =>
      obtain ⟨d, hd, rfl⟩ := Option.map_eq_some_iff.1 h
      obtain ⟨hy, hm, hk⟩ := Date.of?_eq_some_iff.1 hd
      rw [holds_year_iff ⟨hm, hk⟩, hy]
      simp
  | month hys hms =>
      obtain ⟨d, hd, rfl⟩ := Option.map_eq_some_iff.1 h
      obtain ⟨hy, hm, hk⟩ := Date.of?_eq_some_iff.1 hd
      rw [holds_month_iff hk hbefore, hy, hm]
      simp
  | day hys hms hds =>
      obtain ⟨d, hd, rfl⟩ := Option.map_eq_some_iff.1 h
      obtain ⟨hy, hm, hk⟩ := Date.of?_eq_some_iff.1 hd
      rw [holds_day_iff, hy, hm, hk]
      simp

/-! ### The characters that are written -/

/-- The text of a span has digits and hyphens only. -/
theorem Writes.isDigit_or {y : Nat} {m k : Option Nat} (h : Writes s y m k) :
    ∀ c ∈ s, c.isDigit = true ∨ c = '-' := by
  intro c hc
  cases h with
  | year hys => exact .inl (hys.digits c hc)
  | month hys hms =>
      simp only [List.mem_append, List.mem_cons] at hc
      rcases hc with hc | hc | hc
      · exact .inl (hys.digits c hc)
      · exact .inr hc
      · exact .inl (hms.digits c hc)
  | day hys hms hds =>
      simp only [List.mem_append, List.mem_cons] at hc
      rcases hc with hc | hc | hc | hc | hc
      · exact .inl (hys.digits c hc)
      · exact .inr hc
      · exact .inl (hms.digits c hc)
      · exact .inr hc
      · exact .inl (hds.digits c hc)

/-- The text of a span is not empty. -/
theorem Writes.ne_nil {y : Nat} {m k : Option Nat} (h : Writes s y m k) : s ≠ [] := by
  cases h with
  | year hys =>
      have hlength := length_of_isNumeral_year hys
      exact List.ne_nil_of_length_pos (by omega)
  | month hys hms => simp
  | day hys hms hds => simp

end Span

end Coffer
