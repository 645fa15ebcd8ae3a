/-
**The key of a period reads back.**

A key has the year in four digits if the year is one of 0 to 9999, and the month or the quarter
behind it.  Reading cuts it at the first hyphen; the digits of the year are not cut, since no sign
stands in front of them.

Main results:

* `Coffer.Reading.natural?_padded` — padded digits read back;
* `Coffer.Period.ofKey_key` — **the key of a period reads back as the period;**
* `Coffer.Period.ofMonthKey_key` — so does the key of a month where a month is wanted;
* `Coffer.Period.exists_containing_of_ofKey` — **a key that is read is that of a period;**
* `Coffer.Period.key_containing_eq_iff_holds` — it is the key for the days that the period holds;
* `Coffer.Period.key_round_trip` — **keys and periods determine each other.**
-/

import Coffer.Proofs.Calendar.DateText
import Coffer.Proofs.Calendar.Periods

set_option autoImplicit false

namespace Coffer

open Binary64 (padded isDigit_of_mem_padded length_padded ofDigitChars_padded)

/-- Padded digits read back. -/
theorem Reading.natural?_padded (k n : Nat) : natural? (padded k n) = some n := by
  have hdigits : (padded k n).all Char.isDigit = true := by
    rw [List.all_eq_true]
    intro c hc
    exact isDigit_of_mem_padded hc
  unfold natural?
  rw [if_pos ⟨DateLayout.padded_ne_nil k n, hdigits⟩, ofDigitChars_padded]

/-- A text without blanks is as it is when it is trimmed. -/
theorem Text.trimChars_eq_self {s : List Char} (h : ∀ c ∈ s, isBlank c = false) :
    trimChars s = s := by
  have hdrop (t : List Char) (ht : ∀ c ∈ t, isBlank c = false) : t.dropWhile isBlank = t := by
    cases t with
    | nil => rfl
    | cons c rest => simp [ht c (by simp)]
  have hreverse : ∀ c ∈ s.reverse, isBlank c = false := by
    intro c hc
    exact h c (List.mem_reverse.1 hc)
  rw [trimChars, hdrop s h, hdrop s.reverse hreverse, List.reverse_reverse]

namespace Period

variable {kind : PeriodKind} {d : Date}

/-- Behind the year and a hyphen there is a month, if there is no Q. -/
theorem afterYear?_cons_of_ne {year : Nat} {c : Char} {rest : List Char} (hupper : c ≠ 'Q')
    (hlower : c ≠ 'q') :
    afterYear? year ('-' :: c :: rest) =
      match Reading.natural? (c :: rest) with
      | some n =>
        if (c :: rest).length = 2 ∧ 1 ≤ n ∧ n ≤ 12 then some ⟨.monthly, year, n⟩ else none
      | none => none := by
  cases hread : Reading.natural? (c :: rest) <;> simp [afterYear?, hupper, hlower, hread]

/-- Digits behind the year are a month. -/
theorem afterYear?_cons_digits {year : Nat} {ds : List Char}
    (hdigits : ∀ c ∈ ds, c.isDigit = true) :
    afterYear? year ('-' :: ds) =
      match Reading.natural? ds with
      | some n => if ds.length = 2 ∧ 1 ≤ n ∧ n ≤ 12 then some ⟨.monthly, year, n⟩ else none
      | none => none := by
  cases ds with
  | nil => rfl
  | cons c rest =>
      have hdigit : c.isDigit = true := hdigits c (by simp)
      refine afterYear?_cons_of_ne ?_ ?_
      · rintro rfl
        cases hdigit
      · rintro rfl
        cases hdigit

/-- What follows the year in a key reads back. -/
theorem afterYear?_keyTail (kind : PeriodKind) (d : Date) (year : Nat) (hyear : d.year = year) :
    afterYear? year (containing kind d).keyTail = some (containing kind d) := by
  obtain ⟨hlow, hhigh⟩ := d.month_bounds
  have hdate : containing kind d = ⟨kind, year, firstMonthOf kind d.month⟩ := by
    rw [containing, hyear]
  rw [hdate]
  unfold keyTail
  cases kind with
  | monthly =>
      have hmonth : firstMonthOf .monthly d.month = d.month := by
        simp only [firstMonthOf, PeriodKind.months]
        omega
      have hlength : (padded 2 d.month).length = 2 := length_padded (by decide) (by omega)
      dsimp only
      rw [hmonth, afterYear?_cons_digits fun c hc => isDigit_of_mem_padded hc,
        Reading.natural?_padded]
      dsimp only
      rw [if_pos ⟨hlength, hlow, hhigh⟩]
  | quarterly =>
      have hquarter : 1 ≤ quarter (firstMonthOf .quarterly d.month) ∧
          quarter (firstMonthOf .quarterly d.month) ≤ 4 := by
        simp only [quarter, firstMonthOf, PeriodKind.months]
        omega
      have hfirst : (quarter (firstMonthOf .quarterly d.month) - 1) * 3 + 1 =
          firstMonthOf .quarterly d.month := by
        simp only [quarter, firstMonthOf, PeriodKind.months]
        omega
      simp only [afterYear?, Reading.natural?_padded, if_pos hquarter, hfirst]
  | annual =>
      have hfirst : firstMonthOf .annual d.month = 1 := by
        simp only [firstMonthOf, PeriodKind.months]
        omega
      rw [hfirst]
      rfl

/-- The year of a key ends where the rest of the key starts. -/
theorem takeWhile_keyYear (n : Nat) (p : Period) :
    (padded 4 n ++ p.keyTail).takeWhile (· != '-') = padded 4 n := by
  have hyear : ∀ c ∈ padded 4 n, (c != '-') = true := by
    intro c hc
    have hdigit := isDigit_of_mem_padded hc
    simp only [bne_iff_ne]
    rintro rfl
    cases hdigit
  have htail : p.keyTail.takeWhile (· != '-') = [] := by
    unfold keyTail
    cases p.kind <;> rfl
  rw [List.takeWhile_append_of_pos hyear, htail, List.append_nil]

theorem ofKeyChars?_keyChars (hyear : 0 ≤ d.year ∧ d.year ≤ 9999) :
    ofKeyChars? (containing kind d).keyChars = some (containing kind d) := by
  obtain ⟨n, hn⟩ := Int.eq_ofNat_of_zero_le hyear.1
  have hlength : (padded 4 n).length = 4 := length_padded (by decide) (by omega)
  have hchars : (containing kind d).keyChars = padded 4 n ++ (containing kind d).keyTail := by
    have hdate : (containing kind d).year = n := hn
    rw [keyChars_eq, hdate, keyYear, if_pos (Int.natCast_nonneg n), Int.toNat_natCast]
  have hdrop : (padded 4 n ++ (containing kind d).keyTail).drop 4 =
      (containing kind d).keyTail := by
    have hleft : (padded 4 n ++ (containing kind d).keyTail).drop (padded 4 n).length =
        (containing kind d).keyTail := List.drop_left
    rwa [hlength] at hleft
  unfold ofKeyChars?
  simp only [hchars, takeWhile_keyYear, Reading.natural?_padded, hlength, if_true, hdrop]
  exact afterYear?_keyTail kind d n hn

/-- There are no blanks in a key. -/
theorem isBlank_of_mem_keyChars {p : Period} {c : Char} (h : c ∈ p.keyChars) :
    Text.isBlank c = false := by
  have hdigits {k n : Nat} (hc : c ∈ padded k n) : Text.isBlank c = false :=
    DateLayout.isBlank_of_isDigit (isDigit_of_mem_padded hc)
  rw [keyChars_eq] at h
  rcases List.mem_append.1 h with h | h
  · unfold keyYear at h
    split at h
    · exact hdigits h
    · rcases List.mem_cons.1 h with rfl | h
      · decide
      · exact hdigits h
  · unfold keyTail at h
    cases hkind : p.kind with
    | monthly =>
        rw [hkind] at h
        rcases List.mem_cons.1 h with rfl | h
        · decide
        · exact hdigits h
    | quarterly =>
        rw [hkind] at h
        rcases List.mem_cons.1 h with rfl | h
        · decide
        rcases List.mem_cons.1 h with rfl | h
        · decide
        · exact hdigits h
    | annual =>
        rw [hkind] at h
        cases h

/-- **The key of a period reads back as the period,** if its year has four digits. -/
theorem ofKey_key (hyear : 0 ≤ d.year ∧ d.year ≤ 9999) :
    ofKey (containing kind d).key = .ok (containing kind d) := by
  rw [ofKey_eq_ok_iff, key, String.toList_ofList,
    Text.trimChars_eq_self fun c hc => isBlank_of_mem_keyChars hc, ofKeyChars?_keyChars hyear]

theorem ofMonthKey_key (hyear : 0 ≤ d.year ∧ d.year ≤ 9999) :
    ofMonthKey (containing .monthly d).key = .ok (containing .monthly d) :=
  ofMonthKey_eq_ok_iff.2 ⟨ofKey_key hyear, rfl⟩

/-! ### Keys that are read -/

variable {p : Period} {s : String}

/-- The first day of a month of a year with four digits. -/
theorem exists_firstOfMonth {year month : Nat} (hyear : year ≤ 9999)
    (hmonth : 1 ≤ month ∧ month ≤ 12) :
    ∃ d : Date, d.year = year ∧ d.month = month := by
  have hlow : minYear ≤ (year : Int) := by
    unfold minYear
    omega
  have hhigh : (year : Int) ≤ maxYear := by
    unfold maxYear
    omega
  exact ⟨⟨year, month, 1, hlow, hhigh, Nat.le_refl 1, daysInMonth_pos year hmonth⟩, rfl, rfl⟩

/-- What is read behind a year is a period of that year. -/
theorem exists_containing_of_afterYear? {year : Nat} {rest : List Char} (hyear : year ≤ 9999)
    (h : afterYear? year rest = some p) : ∃ d : Date, d.year = year ∧ p = containing p.kind d := by
  -- a month of the period tells the day and the period
  have hof (kind : PeriodKind) (month : Nat) (hmonth : 1 ≤ month ∧ month ≤ 12)
      (hp : p = ⟨kind, year, firstMonthOf kind month⟩) :
      ∃ d : Date, d.year = year ∧ p = containing p.kind d := by
    obtain ⟨d, hdate, rfl⟩ := exists_firstOfMonth hyear hmonth
    exact ⟨d, hdate, by rw [hp, containing, hdate]⟩
  have hquarter {ds : List Char} (h : (match Reading.natural? ds with
      | some n => if 1 ≤ n ∧ n ≤ 4 then some ⟨.quarterly, year, (n - 1) * 3 + 1⟩ else none
      | none => none) = some p) : ∃ d : Date, d.year = year ∧ p = containing p.kind d := by
    split at h
    · next n _ =>
        obtain ⟨hn, hp⟩ := Option.ite_none_right_eq_some.1 h
        refine hof .quarterly ((n - 1) * 3 + 1) (by omega) ?_
        simp only [← Option.some_inj.1 hp, firstMonthOf, PeriodKind.months,
          Period.mk.injEq, true_and]
        omega
    · cases h
  unfold afterYear? at h
  split at h
  · cases h
    exact hof .annual 1 (by decide) rfl
  · split at h
    · exact hquarter h
    · exact hquarter h
    · split at h
      · next n _ =>
          obtain ⟨⟨-, hn⟩, hp⟩ := Option.ite_none_right_eq_some.1 h
          refine hof .monthly n hn ?_
          simp only [← Option.some_inj.1 hp, firstMonthOf, PeriodKind.months,
            Period.mk.injEq, true_and]
          omega
      · cases h
  · cases h

/-- **A key that is read is that of a period of a year with four digits.** -/
theorem exists_containing_of_ofKey (h : ofKey s = .ok p) :
    ∃ d : Date, (0 ≤ d.year ∧ d.year ≤ 9999) ∧ p = containing p.kind d := by
  have hchars := ofKey_eq_ok_iff.1 h
  unfold ofKeyChars? at hchars
  dsimp only at hchars
  split at hchars
  · next n hread =>
      split at hchars
      · next hfour =>
          have hbound := (eq_padded_of_natural? hread).2
          rw [hfour] at hbound
          obtain ⟨d, hyear, hp⟩ := exists_containing_of_afterYear? (by omega) hchars
          exact ⟨d, by omega, hp⟩
      · cases hchars
  · cases hchars

/-- A key that is read has a canonical form, which reads as the same period. -/
theorem ofKey_key_of_ofKey (h : ofKey s = .ok p) : ofKey p.key = .ok p := by
  obtain ⟨d, hyear, hp⟩ := exists_containing_of_ofKey h
  rw [hp]
  exact ofKey_key hyear

/-- A period that was read holds the days of which it is the period. -/
theorem holds_iff_of_ofKey (h : ofKey s = .ok p) (e : Date) :
    p.holds e = true ↔ containing p.kind e = p := by
  obtain ⟨d, hyear, hp⟩ := exists_containing_of_ofKey h
  have hends : (containing p.kind d).Ends := by
    refine .inl ?_
    show d.year < maxYear
    unfold maxYear
    omega
  have hholds : (containing p.kind d).holds e = true ↔ containing p.kind e = containing p.kind d :=
    holds_containing_iff hends
  rwa [← hp] at hholds

/-- The key of a period that was read is the key for a day exactly if the period holds the day. -/
theorem key_containing_eq_iff_holds (h : ofKey s = .ok p) (e : Date) :
    (containing p.kind e).key = p.key ↔ p.holds e = true := by
  obtain ⟨d, -, hp⟩ := exists_containing_of_ofKey h
  have hkey : (containing p.kind e).key = (containing p.kind d).key ↔
      containing p.kind e = containing p.kind d := key_containing_eq_iff
  rw [← hp] at hkey
  exact hkey.trans (holds_iff_of_ofKey h e).symm

/-- Two keys that are read have the same canonical form exactly if they are read as the same
period. -/
theorem key_eq_key_iff {s' : String} {p' : Period} (h : ofKey s = .ok p) (h' : ofKey s' = .ok p') :
    p.key = p'.key ↔ p = p' := by
  refine ⟨fun heq => ?_, congrArg key⟩
  have hread := ofKey_key_of_ofKey h
  rw [heq, ofKey_key_of_ofKey h'] at hread
  cases hread
  rfl

/-- **Keys and periods determine each other:** the key of a period of a year with four digits reads
back as the period, and what is read from any text is the period of all the days in its window, of
which there is one, and reads back from its own key. -/
theorem key_round_trip (kind : PeriodKind) (d : Date) (s : String) (p : Period) :
    (0 ≤ d.year ∧ d.year ≤ 9999 → ofKey (containing kind d).key = .ok (containing kind d)) ∧
    (ofKey s = .ok p →
      ofKey p.key = .ok p ∧ (∃ e, p.holds e = true) ∧
      ∀ e, p.holds e = true ↔ containing p.kind e = p) := by
  refine ⟨ofKey_key, fun h => ⟨ofKey_key_of_ofKey h, ?_, holds_iff_of_ofKey h⟩⟩
  obtain ⟨d, -, hp⟩ := exists_containing_of_ofKey h
  exact ⟨d, (holds_iff_of_ofKey h d).2 hp.symm⟩

theorem key_round_trip_last_quarter :
    ofKey "9999-Q4" = .ok ⟨.quarterly, 9999, 10⟩ ∧ ofKey " 9999-q04 " = .ok ⟨.quarterly, 9999, 10⟩ ∧
      ∃ e, holds ⟨.quarterly, 9999, 10⟩ e = true := by
  have hread : ofKey " 9999-q04 " = .ok ⟨.quarterly, 9999, 10⟩ := rfl
  obtain ⟨hkey, hofKey⟩ :=
    key_round_trip .quarterly ⟨9999, 12, 31, by decide⟩ " 9999-q04 " ⟨.quarterly, 9999, 10⟩
  exact ⟨hkey (by decide), hread, (hofKey hread).2.1⟩

end Period

end Coffer
