/-
**The texts that are read as a key.**

A key has one of three shapes: a year in four digits, a year and a month in two digits, or a year
and the digit of a quarter behind a Q.  Blanks around it and a small q do not count.  Years and
months are read in these shapes only.  Zeros in front of the digit of a quarter are passed over when
it is read, so that the quarters, and only they, have further spellings besides their key.

Main definitions:

* `Coffer.Period.Writes` — **the shapes of keys,** with zeros in front of the digit of a quarter;
* `Coffer.Period.bareKey` — a text without the blanks around it and without small q's.

Main results:

* `Coffer.Period.ofKeyChars?_eq_some_iff` — what is read is written in one of the shapes;
* `Coffer.Period.Writes.eq_spelled` — a shape is determined by the period and the count of zeros;
* `Coffer.Period.ofKey_iff_writes` — **the texts that are read as a key, and which of them are the
  key.**
-/

import Coffer.Proofs.Calendar.Keys
import Coffer.Proofs.Calendar.SpanDays

set_option autoImplicit false

namespace Coffer

/-- A nonempty run of digits is read as its value, and nothing else is read. -/
theorem Reading.natural?_eq_some_iff {ds : List Char} {n : Nat} :
    natural? ds = some n ↔ ds ≠ [] ∧ (∀ c ∈ ds, c.isDigit = true) ∧ n = Span.value ds := by
  unfold natural?
  rw [Option.ite_none_right_eq_some, List.all_eq_true, Option.some_inj, and_assoc]
  exact and_congr_right fun _ => and_congr_right fun _ => eq_comm

theorem Span.IsNumeral.ne_nil {low high : Nat} {ds : List Char} (h : IsNumeral low high ds)
    (hlow : 0 < low) : ds ≠ [] :=
  List.ne_nil_of_length_pos (Nat.lt_of_lt_of_le hlow h.low)

namespace Period

open Binary64 (padded padded_ofDigitChars)
open Coffer.Span (IsNumeral value behind)

/-! ### Shapes -/

/-- **What is written as a key:** a year; a year and a month; a year and a quarter, with a count of
zeros in front of its digit. -/
inductive Writes : Nat → List Char → Period → Prop
  | annual {ys : List Char} : IsNumeral 4 4 ys → Writes 0 ys ⟨.annual, value ys, 1⟩
  | monthly {ys ms : List Char} : IsNumeral 4 4 ys → IsNumeral 2 2 ms →
      1 ≤ value ms ∧ value ms ≤ 12 → Writes 0 (ys ++ '-' :: ms) ⟨.monthly, value ys, value ms⟩
  | quarterly {ys qs : List Char} (zeros : Nat) : IsNumeral 4 4 ys → IsNumeral 1 1 qs →
      1 ≤ value qs ∧ value qs ≤ 4 →
      Writes zeros (ys ++ '-' :: 'Q' :: (List.replicate zeros '0' ++ qs))
        ⟨.quarterly, value ys, (value qs - 1) * 3 + 1⟩

/-- A small q as a capital one. -/
def capital (c : Char) : Char := if c = 'q' then 'Q' else c

/-- A text without the blanks around it and with capital Q's for small ones. -/
def bareKey (s : String) : List Char := (Text.trimChars s.toList).map capital

variable {p : Period} {zeros zeros' : Nat} {s t ds ys : List Char} {s' : String}

/-! ### Small letters -/

theorem isDigit_capital (c : Char) : (capital c).isDigit = c.isDigit := by
  unfold capital
  split
  · next hq =>
      subst hq
      rfl
  · rfl

theorem capital_ne_small (c : Char) : capital c ≠ 'q' := by
  unfold capital
  split <;> simp_all

theorem capital_eq_hyphen_iff {c : Char} : capital c = '-' ↔ c = '-' := by
  unfold capital
  split
  · next hq =>
      subst hq
      decide
  · exact Iff.rfl

theorem map_capital_of_digits (hds : ∀ c ∈ ds, c.isDigit = true) : ds.map capital = ds := by
  have hstays : ∀ c ∈ ds, capital c = c := by
    intro c hc
    refine if_neg ?_
    rintro rfl
    cases hds _ hc
  rw [List.map_congr_left hstays, List.map_id']

theorem natural?_map_capital (ds : List Char) :
    Reading.natural? (ds.map capital) = Reading.natural? ds := by
  have hall : (ds.map capital).all Char.isDigit = ds.all Char.isDigit := by
    simp only [List.all_map, Function.comp_def, isDigit_capital]
  by_cases hds : ds.all Char.isDigit = true
  · rw [map_capital_of_digits (List.all_eq_true.1 hds)]
  · unfold Reading.natural?
    rw [hall, if_neg fun h => hds h.2, if_neg fun h => hds h.2]

theorem afterYear?_cons_eq_none {year : Nat} {c : Char} {rest : List Char} (hc : c ≠ '-') :
    afterYear? year (c :: rest) = none := by
  unfold afterYear?
  split <;> simp_all

/-- Behind a year a small q is read as a capital one. -/
theorem afterYear?_map_capital (year : Nat) (rest : List Char) :
    afterYear? year (rest.map capital) = afterYear? year rest := by
  match rest with
  | [] => rfl
  | c :: rest =>
      by_cases hc : c = '-'
      · subst hc
        match rest with
        | [] => rfl
        | d :: ds =>
            have hread := natural?_map_capital ds
            by_cases hcapital : d = 'Q'
            · subst hcapital
              simp [afterYear?, capital, hread]
            by_cases hsmall : d = 'q'
            · subst hsmall
              simp [afterYear?, capital, hread]
            have hmonth := natural?_map_capital (d :: ds)
            have hstays : capital d = d := if_neg hsmall
            have hhyphen : capital '-' = '-' := rfl
            simp only [List.map_cons, hstays, hhyphen] at hmonth ⊢
            rw [afterYear?_cons_of_ne hcapital hsmall,
              afterYear?_cons_of_ne hcapital hsmall, hmonth]
            simp only [List.length_cons, List.length_map]
      · have hcapital : capital c ≠ '-' := fun h => hc (capital_eq_hyphen_iff.1 h)
        rw [List.map_cons, afterYear?_cons_eq_none hcapital, afterYear?_cons_eq_none hc]

theorem ofKeyChars?_map_capital (s : List Char) : ofKeyChars? (s.map capital) = ofKeyChars? s := by
  have hends (c : Char) : (capital c != '-') = (c != '-') := by
    rw [Bool.eq_iff_iff, bne_iff_ne, bne_iff_ne, Ne, capital_eq_hyphen_iff]
  have hyear : (s.map capital).takeWhile (· != '-') = (s.takeWhile (· != '-')).map capital := by
    rw [List.takeWhile_map]
    simp only [Function.comp_def, hends]
  unfold ofKeyChars?
  simp only [hyear, natural?_map_capital, List.length_map, ← List.map_drop, afterYear?_map_capital]

/-! ### What is read is written -/

/-- Every text is a year of a key and what comes behind it. -/
theorem exists_append_behind (s : List Char) :
    ∃ ys r, s = ys ++ behind r ∧ ∀ c ∈ ys, c ≠ '-' := by
  have hyear : ∀ c ∈ s.takeWhile (· != '-'), c ≠ '-' := by
    intro c hc
    simpa using List.all_eq_true.1 List.all_takeWhile c hc
  have hs : s = s.takeWhile (· != '-') ++ s.dropWhile (· != '-') :=
    List.takeWhile_append_dropWhile.symm
  cases hrest : s.dropWhile (· != '-') with
  | nil =>
      rw [hrest] at hs
      exact ⟨_, none, hs, hyear⟩
  | cons c more =>
      have hhyphen := List.head?_dropWhile_not (· != '-') s
      rw [hrest] at hs hhyphen
      obtain rfl : c = '-' := by simpa using hhyphen
      exact ⟨_, some more, hs, hyear⟩

/-- A key is read year first. -/
theorem ofKeyChars?_append {r : Option (List Char)} (hys : ∀ c ∈ ys, c ≠ '-') :
    ofKeyChars? (ys ++ behind r) = some p ↔
      IsNumeral 4 4 ys ∧ afterYear? (value ys) (behind r) = some p := by
  have htake : (ys ++ behind r).takeWhile (· != '-') = ys := by
    rw [List.takeWhile_append_of_pos fun c hc => bne_iff_ne.2 (hys c hc)]
    cases r <;> simp [behind]
  unfold ofKeyChars?
  simp only [htake, List.drop_left]
  constructor
  · intro h
    split at h
    · next hread =>
        obtain ⟨hlength, hp⟩ := Option.ite_none_right_eq_some.1 h
        obtain ⟨-, hdigits, rfl⟩ := Reading.natural?_eq_some_iff.1 hread
        exact ⟨⟨hdigits, by omega, by omega⟩, hp⟩
    · cases h
  · rintro ⟨hfour, hp⟩
    have hlength := Span.length_of_isNumeral_year hfour
    have hread : Reading.natural? ys = some (value ys) :=
      Reading.natural?_eq_some_iff.2 ⟨hfour.ne_nil (by decide), hfour.digits, rfl⟩
    rw [hread]
    dsimp only
    rw [if_pos hlength, hp]

/-- Digits of a value below ten are zeros and one digit. -/
theorem exists_replicate_zero_append (hne : ds ≠ []) (hds : ∀ c ∈ ds, c.isDigit = true)
    (hvalue : value ds < 10) :
    ∃ zeros qs, ds = List.replicate zeros '0' ++ qs ∧ IsNumeral 1 1 qs ∧ value qs = value ds := by
  induction ds with
  | nil => exact absurd rfl hne
  | cons c rest ih =>
      rw [List.forall_mem_cons] at hds
      match rest with
      | [] => exact ⟨0, [c], rfl, ⟨by simpa using hds.1, Nat.le_refl 1, Nat.le_refl 1⟩, rfl⟩
      | d :: more =>
          by_cases hc : c = '0'
          · subst hc
            have hsame : value ('0' :: d :: more) = value (d :: more) := by
              unfold value
              rw [ofDigitChars_cons_zero]
              simp
            rw [hsame] at hvalue ⊢
            obtain ⟨zeros, qs, hds', hqs, hvalue'⟩ := ih (List.cons_ne_nil _ _) hds.2 hvalue
            exact ⟨zeros + 1, qs, congrArg ('0' :: ·) hds', hqs, hvalue'⟩
          · have hlarge : 10 ^ (d :: more).length ≤ value (c :: d :: more) :=
              le_ofDigitChars hds.1 hc
            have hten : 10 ^ 1 ≤ 10 ^ (d :: more).length :=
              Nat.pow_le_pow_right (by decide) (Nat.le_add_left 1 _)
            omega

/-- Zeros in front of digits are passed over. -/
theorem natural?_replicate_zero_append (zeros : Nat) {qs : List Char} (hqs : IsNumeral 1 1 qs) :
    Reading.natural? (List.replicate zeros '0' ++ qs) = some (value qs) := by
  refine Reading.natural?_eq_some_iff.2
    ⟨List.append_ne_nil_of_right_ne_nil _ (hqs.ne_nil (by decide)), ?_, ?_⟩
  · intro c hc
    rcases List.mem_append.1 hc with hc | hc
    · rw [List.eq_of_mem_replicate hc]
      decide
    · exact hqs.digits c hc
  · simp [value, Nat.ofDigitChars_append]

/-- What is read behind a year without small q's is written behind it. -/
theorem writes_of_afterYear? {rest : List Char} (hys : IsNumeral 4 4 ys) (hq : 'q' ∉ rest)
    (h : afterYear? (value ys) rest = some p) : ∃ zeros, Writes zeros (ys ++ rest) p := by
  unfold afterYear? at h
  split at h
  · cases h
    exact ⟨0, by simpa using Writes.annual hys⟩
  · split at h
    case h_1 ds =>
      split at h
      · next n hread =>
          obtain ⟨hn, hp⟩ := Option.ite_none_right_eq_some.1 h
          obtain ⟨hne, hdigits, rfl⟩ := Reading.natural?_eq_some_iff.1 hread
          obtain ⟨zeros, qs, rfl, hqs, hvalue⟩ :=
            exists_replicate_zero_append hne hdigits (by omega)
          rw [← hvalue] at hn hp
          cases hp
          exact ⟨zeros, .quarterly zeros hys hqs hn⟩
      · cases h
    case h_2 => simp at hq
    case h_3 =>
      split at h
      · next n hread =>
          obtain ⟨⟨hlength, hn⟩, hp⟩ := Option.ite_none_right_eq_some.1 h
          obtain ⟨-, hdigits, rfl⟩ := Reading.natural?_eq_some_iff.1 hread
          cases hp
          exact ⟨0, .monthly hys ⟨hdigits, by omega, by omega⟩ hn⟩
      · cases h
  · cases h

/-- What is written as a key is read. -/
theorem ofKeyChars?_of_writes (h : Writes zeros s p) : ofKeyChars? s = some p := by
  have hhyphen {ys : List Char} (hys : IsNumeral 4 4 ys) : ∀ c ∈ ys, c ≠ '-' := by
    rintro c hc rfl
    cases hys.digits _ hc
  cases h with
  | @annual ys hys =>
      have hread := (ofKeyChars?_append (r := none) (hhyphen hys)).2 ⟨hys, rfl⟩
      rwa [behind, List.append_nil] at hread
  | @monthly ys ms hys hms hmonth =>
      have hlength : ms.length = 2 := Nat.le_antisymm hms.high hms.low
      refine (ofKeyChars?_append (r := some ms) (hhyphen hys)).2 ⟨hys, ?_⟩
      rw [behind, afterYear?_cons_digits hms.digits,
        Reading.natural?_eq_some_iff.2 ⟨hms.ne_nil (by decide), hms.digits, rfl⟩]
      dsimp only
      rw [if_pos ⟨hlength, hmonth⟩]
  | @quarterly ys qs zeros hys hqs hquarter =>
      refine (ofKeyChars?_append (r := some ('Q' :: _)) (hhyphen hys)).2 ⟨hys, ?_⟩
      simp only [behind, afterYear?, natural?_replicate_zero_append zeros hqs, if_pos hquarter]

/-- **What is read is written in one of the shapes,** small q's apart. -/
theorem ofKeyChars?_eq_some_iff :
    ofKeyChars? s = some p ↔ ∃ zeros, Writes zeros (s.map capital) p := by
  rw [← ofKeyChars?_map_capital]
  refine ⟨fun h => ?_, fun ⟨_, hw⟩ => ofKeyChars?_of_writes hw⟩
  obtain ⟨ys, r, hs, hys⟩ := exists_append_behind (s.map capital)
  have hsmall : 'q' ∉ behind r := by
    intro hmem
    have hmem' : 'q' ∈ s.map capital := hs ▸ List.mem_append_right ys hmem
    obtain ⟨c, -, hc⟩ := List.mem_map.1 hmem'
    exact capital_ne_small c hc
  rw [hs] at h ⊢
  obtain ⟨hfour, hp⟩ := (ofKeyChars?_append hys).1 h
  exact writes_of_afterYear? hfour hsmall hp

/-! ### Spellings -/

/-- The key of a period with zeros in front of the digit of a quarter. -/
def spelled (zeros : Nat) (p : Period) : List Char :=
  match p.kind with
  | .quarterly =>
    keyYear p.year ++ '-' :: 'Q' ::
      (List.replicate zeros '0' ++ Nat.toDigits 10 (quarter p.firstMonth))
  | _ => p.keyChars

theorem spelled_zero (p : Period) : spelled 0 p = p.keyChars := by
  unfold spelled keyChars
  cases p.kind <;> rfl

/-- Digits of the full width are the padded digits of their value. -/
theorem padded_value {k : Nat} (hds : IsNumeral (k + 1) (k + 1) ds) :
    padded (k + 1) (value ds) = ds := by
  have hpadded := padded_ofDigitChars (hds.ne_nil (Nat.succ_pos k)) hds.digits
  rwa [Nat.le_antisymm hds.high hds.low] at hpadded

theorem keyYear_value (hys : IsNumeral 4 4 ys) : keyYear (value ys) = ys := by
  rw [keyYear, if_pos (Int.natCast_nonneg _), Int.toNat_natCast, padded_value hys]

/-- One digit is not padded. -/
theorem toDigits_value (hds : IsNumeral 1 1 ds) : Nat.toDigits 10 (value ds) = ds := by
  have hlength : 1 - (Nat.toDigits 10 (value ds)).length = 0 :=
    Nat.sub_eq_zero_of_le (List.length_pos_iff.2 Nat.toDigits_ne_nil)
  have hpadded := padded_value hds
  rwa [padded, hlength] at hpadded

/-- **What is written is determined by the period and the count of zeros.** -/
theorem Writes.eq_spelled (h : Writes zeros s p) : s = spelled zeros p := by
  cases h with
  | annual hys => exact (keyYear_value hys).symm
  | @monthly ys ms hys hms hmonth =>
    simp only [spelled, keyChars, keyYear_value hys, padded_value hms]
  | @quarterly ys qs zeros hys hqs hquarter =>
      have hfirst : quarter ((value qs - 1) * 3 + 1) = value qs := by
        unfold quarter
        omega
      simp only [spelled, keyYear_value hys, hfirst, toDigits_value hqs]

/-- How many characters a key has. -/
def keyLength : PeriodKind → Nat
  | .monthly => 7
  | .quarterly => 7
  | .annual => 4

theorem Writes.length_eq (h : Writes zeros s p) : s.length = keyLength p.kind + zeros := by
  cases h with
  | annual hys => exact Span.length_of_isNumeral_year hys
  | monthly hys hms =>
      have hyear := Span.length_of_isNumeral_year hys
      have hmonth := Nat.le_antisymm hms.high hms.low
      simp only [List.length_append, List.length_cons, keyLength]
      omega
  | quarterly _ hys hqs =>
      have hyear := Span.length_of_isNumeral_year hys
      have hquarter := Nat.le_antisymm hqs.high hqs.low
      simp only [List.length_append, List.length_cons, List.length_replicate, keyLength]
      omega

/-- Two spellings of a period differ in the count of zeros. -/
theorem Writes.eq_iff (h : Writes zeros s p) (h' : Writes zeros' t p) : s = t ↔ zeros = zeros' := by
  constructor
  · rintro rfl
    have hlength := h.length_eq
    have hlength' := h'.length_eq
    omega
  · rintro rfl
    rw [h.eq_spelled, h'.eq_spelled]

/-- A period that is written has its key written without zeros. -/
theorem Writes.keyChars (h : Writes zeros s p) : Writes 0 p.keyChars p := by
  obtain ⟨t, ht⟩ : ∃ t, Writes 0 t p := by
    cases h with
    | annual hys => exact ⟨_, .annual hys⟩
    | monthly hys hms hmonth => exact ⟨_, .monthly hys hms hmonth⟩
    | quarterly _ hys hqs hquarter => exact ⟨_, .quarterly 0 hys hqs hquarter⟩
  rwa [← spelled_zero, ← ht.eq_spelled]

/-- Months and years have one spelling. -/
theorem Writes.zeros_eq (h : Writes zeros s p) (hkind : p.kind ≠ .quarterly) : zeros = 0 := by
  cases h with
  | annual => rfl
  | monthly => rfl
  | quarterly => exact absurd rfl hkind

/-- **The texts that are read as a key** are those that write a year, a month or a quarter, the
digit of a quarter perhaps behind zeros, and then the key is the one without zeros. -/
theorem ofKey_iff_writes (s : String) (p : Period) :
    (ofKey s = .ok p ↔ ∃ zeros, Writes zeros (bareKey s) p) ∧
    (∀ zeros, Writes zeros (bareKey s) p → (bareKey s = p.keyChars ↔ zeros = 0)) ∧
    -- two texts that are read as one period differ in blanks, small letters and zeros
    (∀ s' zeros zeros', Writes zeros (bareKey s) p → Writes zeros' (bareKey s') p →
      (bareKey s = bareKey s' ↔ zeros = zeros')) ∧
    (ofMonthKey s = .ok p ↔ p.kind = .monthly ∧ Writes 0 (bareKey s) p) := by
  have hread : ofKey s = .ok p ↔ ∃ zeros, Writes zeros (bareKey s) p :=
    ofKey_eq_ok_iff.trans ofKeyChars?_eq_some_iff
  refine ⟨hread, fun _ h => h.eq_iff h.keyChars, fun _ _ _ h h' => h.eq_iff h', ?_⟩
  rw [ofMonthKey_eq_ok_iff, hread]
  constructor
  · rintro ⟨⟨zeros, h⟩, hkind⟩
    obtain rfl := h.zeros_eq (by rw [hkind]; decide)
    exact ⟨hkind, h⟩
  · rintro ⟨hkind, h⟩
    exact ⟨⟨0, h⟩, hkind⟩

theorem ofKey_iff_writes_third_quarter :
    ofKey " 2024-q003 " = .ok ⟨.quarterly, 2024, 7⟩ ∧
      bareKey " 2024-q003 " ≠ keyChars ⟨.quarterly, 2024, 7⟩ := by
  have hwritten : Writes 2 (bareKey " 2024-q003 ") ⟨.quarterly, 2024, 7⟩ :=
    @Writes.quarterly "2024".toList "3".toList 2 ⟨List.all_eq_true.1 rfl, by decide, by decide⟩
      ⟨List.all_eq_true.1 rfl, by decide, by decide⟩ (by decide)
  obtain ⟨hread, hkey, -⟩ := ofKey_iff_writes " 2024-q003 " ⟨.quarterly, 2024, 7⟩
  refine ⟨hread.2 ⟨2, hwritten⟩, fun h => ?_⟩
  cases (hkey 2 hwritten).1 h

/-- A quarter is read from a text of none of the shapes, and so has two spellings that differ
neither in blanks nor in letter case. -/
theorem ofKey_zero_before_quarter :
    ofKey "2024-Q01" = .ok ⟨.quarterly, 2024, 1⟩ ∧ (∀ p, ¬ Writes 0 (bareKey "2024-Q01") p) ∧
      ofKey "2024-Q1" = .ok ⟨.quarterly, 2024, 1⟩ ∧ bareKey "2024-Q01" ≠ bareKey "2024-Q1" := by
  refine ⟨rfl, fun p h => ?_, rfl, by decide⟩
  have hlength : 8 = keyLength p.kind + 0 := h.length_eq
  cases hkind : p.kind <;> rw [hkind] at hlength <;> cases hlength

end Period

end Coffer
