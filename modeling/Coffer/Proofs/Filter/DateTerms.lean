/-
**Dates mean what is written.**

A date can be asked for to the year, to the month or to the day.  Every day lies before the year,
the month or the day that is written, or in it, or after it, and a comparison tells which:
`date:<2024-03`, `date:2024-03` and `date:>2024-03` divide the calendar among them.  A range of two
dates asks for what lies neither before the one nor after the other.  It is read exactly if that is
not nothing, whatever the two are written to: `date:2024-03..2024` is a range, and so is
`date:2024..2024-03`.

Main results:

* `Coffer.Comparison.existsUnique_testDate` — every day lies before a span, in it or after it;
* `Coffer.Predicate.parse_date_term`, `Coffer.Predicate.parse_date_range` — how the terms are read;
* `Coffer.Filter.date_terms` — **dates mean what is written.**
-/

import Coffer.Proofs.Calendar.SpanDays
import Coffer.Proofs.Filter.Vacuity

set_option autoImplicit false

namespace Coffer

/-! ### Before, in and after a span -/

namespace Comparison

variable {s : Span} {d : Date}

/-- The comparisons with a span, by the places of its first and its last day. -/
theorem testDate_iff (c : Comparison) :
    c.testDate s d = true ↔
      match c with
      | .equal => s.start.rank ≤ d.rank ∧ d.rank ≤ s.last.rank
      | .greater => s.last.rank < d.rank
      | .atLeast => s.start.rank ≤ d.rank
      | .less => d.rank < s.start.rank
      | .atMost => d.rank ≤ s.last.rank := by
  cases c with
  | equal => exact Span.holds_eq_true_iff
  | _ => exact decide_eq_true_iff

/-- **Every day lies before a span, in it or after it,** and only one of these. -/
theorem existsUnique_testDate (s : Span) (d : Date) :
    ∃! c, (c = .less ∨ c = .equal ∨ c = .greater) ∧ testDate c s d = true := by
  have hle : s.start.rank ≤ s.last.rank := s.start_le_last
  simp only [testDate_iff]
  by_cases hless : d.rank < s.start.rank
  · refine ⟨.less, ⟨.inl rfl, hless⟩, ?_⟩
    rintro c ⟨rfl | rfl | rfl, hc⟩ <;> simp only at hc <;> first | rfl | omega
  · by_cases hgreater : s.last.rank < d.rank
    · refine ⟨.greater, ⟨.inr (.inr rfl), hgreater⟩, ?_⟩
      rintro c ⟨rfl | rfl | rfl, hc⟩ <;> simp only at hc <;> first | rfl | omega
    · refine ⟨.equal, ⟨.inr (.inl rfl), by simp only; omega⟩, ?_⟩
      rintro c ⟨rfl | rfl | rfl, hc⟩ <;> simp only at hc <;> first | rfl | omega

theorem testDate_atMost_iff :
    testDate .atMost s d = true ↔ testDate .less s d = true ∨ testDate .equal s d = true := by
  have hle : s.start.rank ≤ s.last.rank := s.start_le_last
  simp only [testDate_iff]
  omega

theorem testDate_atLeast_iff :
    testDate .atLeast s d = true ↔ testDate .greater s d = true ∨ testDate .equal s d = true := by
  have hle : s.start.rank ≤ s.last.rank := s.start_le_last
  simp only [testDate_iff]
  omega

end Comparison

/-- A day lies between two spans if the first day of the one does. -/
theorem Span.exists_between_iff (p q : Span) :
    (∃ d : Date, p.start ≤ d ∧ d ≤ q.last) ↔ ¬ q.last < p.start := by
  constructor
  · rintro ⟨d, hfirst, hlast⟩
    exact Int.not_lt.2 (Int.le_trans hfirst hlast)
  · intro hle
    exact ⟨p.start, Int.le_refl _, Int.not_lt.1 hle⟩

/-! ### Reading -/

namespace Predicate

variable {s t : List Char} {p q : Span}

/-- What is read as a span starts with a digit, goes on as a word and has no range in it. -/
theorem isBoundText_of_read? (h : Span.read? s = some p) : IsBoundText s := by
  obtain ⟨y, m, k, hw⟩ := Span.exists_writes_of_read? h
  exact isBoundText_of_isDigit_or hw.ne_nil hw.isDigit_or

variable {low high : String}

/-- **A comparison with a date is read.** -/
theorem parse_date_term (h : Span.read? low.toList = some p) (c : Comparison) :
    Filter.parse ("date:" ++ c.sign ++ low) = .ok (some (.field ⟨.date, c, .date p⟩)) := by
  have hbound := isBoundText_of_read? h
  have hword : ∀ a ∈ (c.sign ++ low).toList, Token.isWordChar a = true := by
    intro a ha
    rw [String.toList_append, List.mem_append] at ha
    exact ha.elim isWordChar_of_mem_sign (hbound.word a)
  have hvalue : String.ofList (c.sign.toList ++ low.toList) = c.sign ++ low := by simp
  have hread := read_ordered (f := .date) rfl c hbound []
  rw [List.append_nil, hbound.noRange.splitRange?_eq_none, hvalue] at hread
  have hspan : orderedValue .date c low.toList none = .ok (.date p) := by
    simp [orderedValue, span, h, Except.map]
  have htext : "date:" ++ c.sign ++ low = Field.date.name ++ ":" ++ (c.sign ++ low) := by
    rw [String.append_assoc]
    rfl
  rw [htext, Filter.parse_name_append .date hword, hread, hspan]
  rfl

/-- **A range of two dates is read if a day lies between them.** -/
theorem parse_date_range (hlow : Span.read? low.toList = some p)
    (hhigh : Span.read? high.toList = some q) :
    Filter.parse ("date:" ++ low ++ ".." ++ high) =
      if q.last < p.start then .error (.invertedRange (rangeText p.chars q.chars))
      else .ok (some (.field ⟨.date, .equal, .dateRange p q⟩)) := by
  have hboundLow := isBoundText_of_read? hlow
  have hboundHigh := isBoundText_of_read? hhigh
  have hparse := Filter.parse_range (f := .date) rfl hboundLow.startsWithSign hboundLow.word
    hboundHigh.word
  rw [hboundLow.noRange.splitRange?_append_dots] at hparse
  refine hparse.trans ?_
  simp only [orderedValue, dateRange, span, hlow, hhigh, bind, Except.bind]
  by_cases hempty : q.last < p.start
  · simp [hempty, Except.map]
  · simp [hempty, Except.map]

end Predicate

/-! ### What is selected -/

namespace Filter

variable {low high : String} {p q : Span}

/-- A range of dates selects what lies neither before the one nor after the other. -/
theorem selects_dateRange_iff (p q : Span) (v : View) :
    (Filter.field ⟨.date, .equal, .dateRange p q⟩).selects v = true ↔
      (Filter.field ⟨.date, .atLeast, .date p⟩).selects v = true ∧
        (Filter.field ⟨.date, .atMost, .date q⟩).selects v = true :=
  Bool.and_eq_true_iff

/-- **Dates mean what is written.**  A day lies in a span exactly if its year, and its month and its
day if they are written, are the written ones.  Every day is before a date, at the date or after it,
and only one of these; and it is at most at the date if it is not after it, at least if it is not
before it.  A range of two dates is read exactly if some day is at least at the one and at most at
the other, and selects these days. -/
theorem date_terms (hlow : Span.read? low.toList = some p)
    (hhigh : Span.read? high.toList = some q) :
    (∃ y m k, Span.Writes low.toList y m k ∧
      ∀ d, p.holds d = true ↔ d.year = y ∧ (∀ n ∈ m, d.month = n) ∧ ∀ n ∈ k, d.day = n) ∧
    (∃ term : Comparison → Filter,
      (∀ c, parse ("date:" ++ c.sign ++ low) = .ok (some (term c))) ∧ ∀ v : View,
        ((term .equal).selects v = true ↔ p.holds v.transaction.date = true) ∧
        (∃! c, (c = .less ∨ c = .equal ∨ c = .greater) ∧ (term c).selects v = true) ∧
        ((term .atMost).selects v = true ↔
          (term .less).selects v = true ∨ (term .equal).selects v = true) ∧
        ((term .atLeast).selects v = true ↔
          (term .greater).selects v = true ∨ (term .equal).selects v = true)) ∧
    ∃ first last, parse ("date:>=" ++ low) = .ok (some first) ∧
      parse ("date:<=" ++ high) = .ok (some last) ∧
      ((∃ f, parse ("date:" ++ low ++ ".." ++ high) = .ok f) ↔
        ∃ d : Date, ∀ v : View, v.transaction.date = d →
          first.selects v = true ∧ last.selects v = true) ∧
      ∀ f, parse ("date:" ++ low ++ ".." ++ high) = .ok f → ∃ range, f = some range ∧
        ∀ v, range.selects v = true ↔ first.selects v = true ∧ last.selects v = true := by
  obtain ⟨y, m, k, hw⟩ := Span.exists_writes_of_read? hlow
  have hrange := Predicate.parse_date_range hlow hhigh
  refine ⟨⟨y, m, k, hw, Span.holds_iff_of_writes hlow hw⟩,
    ⟨fun c => .field ⟨.date, c, .date p⟩, Predicate.parse_date_term hlow,
      fun v => ⟨Iff.rfl, ?_, ?_, ?_⟩⟩,
    _, _, Predicate.parse_date_term hlow .atLeast, Predicate.parse_date_term hhigh .atMost, ?_, ?_⟩
  · exact Comparison.existsUnique_testDate p v.transaction.date
  · exact Comparison.testDate_atMost_iff
  · exact Comparison.testDate_atLeast_iff
  · rw [hrange]
    constructor
    · rintro ⟨f, hf⟩
      split at hf
      · cases hf
      · next hle =>
          obtain ⟨d, hfirst, hlast⟩ := (Span.exists_between_iff p q).2 hle
          exact ⟨d, fun v hv => ⟨decide_eq_true (hv ▸ hfirst), decide_eq_true (hv ▸ hlast)⟩⟩
    · rintro ⟨d, hd⟩
      obtain ⟨hfirst, hlast⟩ := hd (View.bare d 0) rfl
      have hle := (Span.exists_between_iff p q).1
        ⟨d, of_decide_eq_true hfirst, of_decide_eq_true hlast⟩
      exact ⟨_, if_neg hle⟩
  · intro f hf
    rw [hrange] at hf
    split at hf
    · cases hf
    · cases hf
      exact ⟨_, rfl, selects_dateRange_iff p q⟩

/-- February of a leap year has its last day, and is the beginning of a range that ends with the
year. -/
theorem date_terms_leapYear :
    Span.read? "2024-2".toList = some ⟨⟨2024, 2, 1, by decide⟩, .month⟩ ∧
    Span.read? "2024".toList = some ⟨⟨2024, 1, 1, by decide⟩, .year⟩ ∧
    Span.holds ⟨⟨2024, 2, 1, by decide⟩, .month⟩ ⟨2024, 2, 29, by decide⟩ = true ∧
    Span.holds ⟨⟨2024, 2, 1, by decide⟩, .month⟩ ⟨2024, 3, 1, by decide⟩ = false ∧
    ∃ range, parse "date:2024-2..2024" = .ok (some range) ∧
      range.selects (View.bare ⟨2024, 12, 31, by decide⟩ 0) = true ∧
      range.selects (View.bare ⟨2024, 1, 31, by decide⟩ 0) = false := by
  have hlow : Span.read? "2024-2".toList = some ⟨⟨2024, 2, 1, by decide⟩, .month⟩ := by cbv
  have hhigh : Span.read? "2024".toList = some ⟨⟨2024, 1, 1, by decide⟩, .year⟩ := by cbv
  obtain ⟨⟨y, m, k, hw, hdays⟩, -, first, last, hfirst, hlast, hread, hselects⟩ :=
    date_terms hlow hhigh
  have hfields : Span.fields? "2024-2".toList = some (2024, some 2, none) := by cbv
  obtain ⟨rfl, rfl, rfl⟩ : y = 2024 ∧ m = some 2 ∧ k = none := by
    simpa using (Span.fields?_eq_some_iff.2 hw).symm.trans hfields
  have hfirst' : parse ("date:>=" ++ "2024-2") =
      .ok (some (.field ⟨.date, .atLeast, .date ⟨⟨2024, 2, 1, by decide⟩, .month⟩⟩)) := by
    cbv
  have hlast' : parse ("date:<=" ++ "2024") =
      .ok (some (.field ⟨.date, .atMost, .date ⟨⟨2024, 1, 1, by decide⟩, .year⟩⟩)) := by
    cbv
  cases hfirst.symm.trans hfirst'
  cases hlast.symm.trans hlast'
  have htext : "date:" ++ "2024-2" ++ ".." ++ "2024" = "date:2024-2..2024" := by decide
  rw [htext] at hread hselects
  obtain ⟨f, hf⟩ := hread.2 ⟨⟨2024, 2, 29, by decide⟩, fun v hv => by
    simp only [selects, Predicate.selects, hv]
    decide⟩
  obtain ⟨range, rfl, hrange⟩ := hselects f hf
  refine ⟨hlow, hhigh, (hdays _).2 (by simp), ?_, range, hf, (hrange _).2 (by decide), ?_⟩
  · exact Bool.eq_false_iff.2 fun h => by simpa using (hdays _).1 h
  · exact Bool.eq_false_iff.2 fun h => absurd ((hrange _).1 h).1 (by decide)

end Filter

end Coffer
