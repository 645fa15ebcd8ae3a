/-
**Spans read back as they are written.**

A span can be written if its year has four digits and it starts where its precision says: a year on
its first day, a month on its first day.  What is read is such a span, and such a span is read back
from its text.

Main definitions: `Coffer.Span.IsAligned`, `Coffer.Span.IsWritten`.

Main results:

* `Coffer.Span.read?_chars` — **a span that can be written is read back from its text;**
* `Coffer.Span.isWritten_of_read?` — only spans that can be written are read;
* `Coffer.Span.isDigit_or_of_mem_chars` — the text of such a span has digits and hyphens only.
-/

import Coffer.Calendar.Span
import Coffer.Proofs.Number.Digits

set_option autoImplicit false

namespace Coffer.Span

open Binary64 (padded isDigit_of_mem_padded length_padded ofDigitChars_padded
  takeWhile_isDigit_padded dropWhile_isDigit_padded)

/-- Whether a span starts where its precision says. -/
def IsAligned (s : Span) : Prop :=
  match s.precision with
  | .year => s.start.month = 1 ∧ s.start.day = 1
  | .month => s.start.day = 1
  | .day => True

/-- **Whether a span can be written:** its year has four digits, and it is aligned. -/
structure IsWritten (s : Span) : Prop where
  nonneg : 0 ≤ s.start.year
  le : s.start.year ≤ 9999
  aligned : s.IsAligned

instance (s : Span) : Decidable s.IsAligned := by
  unfold IsAligned
  split <;> infer_instance

instance (s : Span) : Decidable s.IsWritten :=
  decidable_of_iff (0 ≤ s.start.year ∧ s.start.year ≤ 9999 ∧ s.IsAligned)
    ⟨fun h => ⟨h.1, h.2.1, h.2.2⟩, fun h => ⟨h.nonneg, h.le, h.aligned⟩⟩

/-! ### Writing and reading numbers -/

theorem endsDigits_hyphen (rest : List Char) : EndsDigits ('-' :: rest) :=
  endsDigits_cons (by decide) rest

theorem pair?_padded {n : Nat} (hn : n < 100) : pair? (padded 2 n) = some (n, none) := by
  have htake := takeWhile_isDigit_padded 2 n endsDigits_nil
  have hdrop := dropWhile_isDigit_padded 2 n endsDigits_nil
  rw [List.append_nil] at htake hdrop
  simp only [pair?, htake, hdrop]
  simp [length_padded (k := 2) (by decide) hn]

theorem pair?_padded_hyphen {n : Nat} (hn : n < 100) (rest : List Char) :
    pair? (padded 2 n ++ '-' :: rest) = some (n, some rest) := by
  have htake := takeWhile_isDigit_padded 2 n (endsDigits_hyphen rest)
  have hdrop := dropWhile_isDigit_padded 2 n (endsDigits_hyphen rest)
  simp only [pair?, htake, hdrop]
  simp [length_padded (k := 2) (by decide) hn]

theorem fields?_year {y : Nat} (hy : y < 10000) : fields? (padded 4 y) = some (y, none, none) := by
  have htake := takeWhile_isDigit_padded 4 y endsDigits_nil
  have hdrop := dropWhile_isDigit_padded 4 y endsDigits_nil
  rw [List.append_nil] at htake hdrop
  simp only [fields?, htake, hdrop]
  simp [length_padded (k := 4) (by decide) hy]

theorem fields?_month {y m : Nat} {rest : List Char} (hy : y < 10000)
    (hm : pair? rest = some (m, none)) :
    fields? (padded 4 y ++ '-' :: rest) = some (y, some m, none) := by
  have htake := takeWhile_isDigit_padded 4 y (endsDigits_hyphen rest)
  have hdrop := dropWhile_isDigit_padded 4 y (endsDigits_hyphen rest)
  simp only [fields?, htake, hdrop, hm]
  simp [length_padded (k := 4) (by decide) hy]

/-- A year of four digits, a hyphen, a month, a hyphen and a day. -/
theorem fields?_day {y m d : Nat} {rest more : List Char} (hy : y < 10000)
    (hm : pair? rest = some (m, some more)) (hd : pair? more = some (d, none)) :
    fields? (padded 4 y ++ '-' :: rest) = some (y, some m, some d) := by
  have htake := takeWhile_isDigit_padded 4 y (endsDigits_hyphen rest)
  have hdrop := dropWhile_isDigit_padded 4 y (endsDigits_hyphen rest)
  simp only [fields?, htake, hdrop, hm, hd]
  simp [length_padded (k := 4) (by decide) hy]

/-! ### Reading back -/

theorem yearText_of_isWritten {s : Span} (h : s.IsWritten) :
    s.start.yearText = padded 4 s.start.year.toNat := by
  simp [Date.yearText, Date.yearChars, h.nonneg, h.le]

/-- **A span that can be written is read back from its text.** -/
theorem read?_chars {s : Span} (h : s.IsWritten) : read? s.chars = some s := by
  have hlow := h.nonneg
  have hhigh := h.le
  have hyear : s.start.year.toNat < 10000 := by omega
  have hcast : ((s.start.year.toNat : Nat) : Int) = s.start.year := by omega
  have hmonth : s.start.month < 100 := by
    have := s.start.month_bounds
    omega
  have hday : s.start.day < 100 := by
    have := s.start.day_bounds
    omega
  have halign := h.aligned
  obtain ⟨d, precision⟩ := s
  cases precision with
  | year =>
      obtain ⟨hm, hd⟩ : d.month = 1 ∧ d.day = 1 := halign
      have hchars : Span.chars ⟨d, .year⟩ = padded 4 d.year.toNat := yearText_of_isWritten h
      have hdate : Date.of? d.year.toNat 1 1 = some d := Date.of?_eq_some_iff.2 ⟨hcast.symm, hm, hd⟩
      simp only [read?, hchars, fields?_year hyear, hdate, Option.map_some]
  | month =>
      have hd : d.day = 1 := halign
      have hchars : Span.chars ⟨d, .month⟩ = padded 4 d.year.toNat ++ '-' :: padded 2 d.month :=
        congrArg (· ++ '-' :: padded 2 d.month) (yearText_of_isWritten h)
      have hdate : Date.of? d.year.toNat d.month 1 = some d :=
        Date.of?_eq_some_iff.2 ⟨hcast.symm, rfl, hd⟩
      simp only [read?, hchars, fields?_month hyear (pair?_padded hmonth), hdate, Option.map_some]
  | day =>
      have hchars : Span.chars ⟨d, .day⟩ =
          padded 4 d.year.toNat ++ '-' :: (padded 2 d.month ++ '-' :: padded 2 d.day) := by
        change d.yearText ++ '-' :: padded 2 d.month ++ '-' :: padded 2 d.day = _
        rw [yearText_of_isWritten h, List.append_assoc, List.cons_append]
      have hdate : Date.of? d.year.toNat d.month d.day = some d :=
        Date.of?_eq_some_iff.2 ⟨hcast.symm, rfl, rfl⟩
      have hfields := fields?_day hyear (pair?_padded_hyphen hmonth _) (pair?_padded hday)
      simp only [read?, hchars, hfields, hdate, Option.map_some]

/-- The year of the numbers of a span has four digits. -/
theorem lt_of_fields? {cs : List Char} {y : Nat} {m d : Option Nat}
    (h : fields? cs = some (y, m, d)) : y < 10000 := by
  have hdigits : ∀ c ∈ cs.takeWhile Char.isDigit, c.isDigit = true := fun c hc =>
    List.all_eq_true.1 List.all_takeWhile c hc
  have hlt := ofDigitChars_lt hdigits
  simp only [fields?] at h
  split at h
  · next hlen =>
      rw [hlen] at hlt
      -- whatever follows the year, it is kept
      have hy : y = Nat.ofDigitChars 10 (cs.takeWhile Char.isDigit) 0 := by
        repeat' split at h
        all_goals first | exact (congrArg Prod.fst (Option.some.inj h)).symm | cases h
      omega
  · cases h

/-- **Only spans that can be written are read.** -/
theorem isWritten_of_read? {cs : List Char} {s : Span} (h : read? cs = some s) : s.IsWritten := by
  unfold read? at h
  split at h
  · next y _ hf =>
      have hy := lt_of_fields? hf
      obtain ⟨d, hd, rfl⟩ := Option.map_eq_some_iff.1 h
      obtain ⟨hyear, hm, hday⟩ := Date.of?_eq_some_iff.1 hd
      exact ⟨by simp [hyear], by simp [hyear]; omega, hm, hday⟩
  · next y m hf =>
      have hy := lt_of_fields? hf
      obtain ⟨d, hd, rfl⟩ := Option.map_eq_some_iff.1 h
      obtain ⟨hyear, -, hday⟩ := Date.of?_eq_some_iff.1 hd
      exact ⟨by simp [hyear], by simp [hyear]; omega, hday⟩
  · next y m n hf =>
      have hy := lt_of_fields? hf
      obtain ⟨d, hd, rfl⟩ := Option.map_eq_some_iff.1 h
      obtain ⟨hyear, -, -⟩ := Date.of?_eq_some_iff.1 hd
      exact ⟨by simp [hyear], by simp [hyear]; omega, trivial⟩
  · cases h

/-! ### The characters of a span -/

/-- The text of a span that can be written starts with a digit. -/
theorem exists_chars_eq_cons {s : Span} (h : s.IsWritten) :
    ∃ c rest, s.chars = c :: rest ∧ c.isDigit = true := by
  have hyear : s.start.year.toNat < 10 ^ 4 := by
    have := h.nonneg
    have := h.le
    omega
  obtain ⟨c, rest, hc⟩ : ∃ c rest, padded 4 s.start.year.toNat = c :: rest := by
    have hlen := length_padded (k := 4) (by decide) hyear
    exact List.exists_cons_of_ne_nil fun hnil => by simp [hnil] at hlen
  have hdigit : c.isDigit = true :=
    isDigit_of_mem_padded (k := 4) (n := s.start.year.toNat) (by simp [hc])
  have htext := yearText_of_isWritten h
  rw [hc] at htext
  cases hp : s.precision with
  | year => exact ⟨c, rest, by simp [chars, hp, htext], hdigit⟩
  | month =>
      exact ⟨c, rest ++ '-' :: padded 2 s.start.month, by simp [chars, hp, Date.monthText, htext],
        hdigit⟩
  | day =>
      exact ⟨c, rest ++ '-' :: (padded 2 s.start.month ++ '-' :: padded 2 s.start.day),
        by simp [chars, hp, Date.isoChars, Date.monthText, htext], hdigit⟩

/-- The text of a span that can be written has digits and hyphens only. -/
theorem isDigit_or_of_mem_chars {s : Span} (h : s.IsWritten) {c : Char} (hc : c ∈ s.chars) :
    c.isDigit = true ∨ c = '-' := by
  have hmem : c ∈ padded 4 s.start.year.toNat ∨ c = '-' ∨ c ∈ padded 2 s.start.month ∨
      c ∈ padded 2 s.start.day := by
    cases hp : s.precision with
    | year =>
        simp only [chars, hp, yearText_of_isWritten h] at hc
        exact .inl hc
    | month =>
        simp only [chars, hp, Date.monthText, yearText_of_isWritten h, List.mem_append,
          List.mem_cons] at hc
        rcases hc with hc | hc | hc <;> simp [hc]
    | day =>
        simp only [chars, hp, Date.isoChars, Date.monthText, yearText_of_isWritten h,
          List.mem_append, List.mem_cons] at hc
        rcases hc with (hc | hc | hc) | hc | hc <;> simp [hc]
  rcases hmem with hc | hc | hc | hc
  · exact .inl (isDigit_of_mem_padded hc)
  · exact .inr hc
  · exact .inl (isDigit_of_mem_padded hc)
  · exact .inl (isDigit_of_mem_padded hc)

end Coffer.Span
