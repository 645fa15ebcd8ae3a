/-
**The texts that are read as a date.**

A date is read number by number.  A number may have blanks before it; a month and a day have one or
two digits, and a year has one to four, or a sign and any number of them.  The numbers of a text are
read in one way only, so that a text says which date it is: the year of `05/01/24` has two digits,
and they are read as the year 24.

Main definitions:

* `Coffer.DateLayout.Numeral` — a number in writing, with its blanks, its sign and its digits;
* `Coffer.DateLayout.Numeral.Fits` — the numbers that are read in a place of a date;
* `Coffer.DateLayout.Spells` — **a date in writing,** a number for each of its places;
* `Coffer.DateLayout.chars` — the text of the numbers in a layout.

Main results:

* `Coffer.DateLayout.exists_numeral_of_part`, `Coffer.DateLayout.part_chars` — how a number is read;
* `Coffer.DateLayout.joined_injective` — a text has its numbers in one way only;
* `Coffer.DateLayout.read_eq_ok_iff` — **what is read as a date is a date in writing.**
-/

import Coffer.Calendar.DateText
import Coffer.Proofs.Calendar.SpanDays
import Coffer.Proofs.Except
import Mathlib.Data.List.Forall2

set_option autoImplicit false

namespace Coffer

open Coffer.Span (IsNumeral value)

/-! ### Numbers of dates -/

/-- The number in a place of a date. -/
def Date.number (d : Date) : DatePart → Int
  | .year => d.year
  | .month => d.month
  | .day => d.day

namespace DatePart

/-- How many digits a number without a sign can have in its place. -/
def width : DatePart → Nat
  | .year => 4
  | .month => 2
  | .day => 2

/-- The numbers that are taken in, before the calendar is asked. -/
def Allows : DatePart → Int → Prop
  | .year, v => -2 ^ 31 ≤ v ∧ v < 2 ^ 31
  | .month, v => 1 ≤ v ∧ v ≤ 12
  | .day, v => 1 ≤ v ∧ v ≤ 31

instance : (p : DatePart) → (v : Int) → Decidable (p.Allows v)
  | .year, v => inferInstanceAs (Decidable (-2 ^ 31 ≤ v ∧ v < 2 ^ 31))
  | .month, v => inferInstanceAs (Decidable (1 ≤ v ∧ v ≤ 12))
  | .day, v => inferInstanceAs (Decidable (1 ≤ v ∧ v ≤ 31))

/-- The numbers of a date are taken in. -/
theorem allows_number (p : DatePart) (d : Date) : p.Allows (d.number p) := by
  have hyear : minYear ≤ d.year ∧ d.year ≤ maxYear := ⟨d.isDate.1, d.isDate.2.1⟩
  have hmonth := d.month_bounds
  have hday := d.day_bounds
  unfold minYear maxYear at hyear
  cases p <;> simp only [Allows, Date.number] <;> omega

end DatePart

/-- What is read so far, with one more number. -/
def DateFields.set (f : DateFields) (p : DatePart) (v : Int) : DateFields :=
  match p with
  | .year => { f with year := v }
  | .month => { f with month := v.toNat }
  | .day => { f with day := v.toNat }

namespace DateLayout

theorem isBlank_of_isDigit {c : Char} (h : c.isDigit = true) : Text.isBlank c = false := by
  have hrange := Char.isDigit_iff_toNat.1 h
  have hzero : '0'.toNat = 0x30 := rfl
  have hnine : '9'.toNat = 0x39 := rfl
  have hpoints : ∀ p ∈ Text.blankPoints, p < 0x30 ∨ 0x39 < p := by decide
  unfold Text.isBlank
  rw [← Bool.not_eq_true, List.contains_iff_mem]
  intro hmem
  have := hpoints _ hmem
  omega

/-- **A number in writing:** blanks, perhaps a sign, and digits. -/
structure Numeral where
  blanks : List Char
  sign : Option Char
  digits : List Char

variable {p : DatePart} {n n' : Numeral} {f g : DateFields} {s rest rest' : List Char} {c : Char}

namespace Numeral

/-- The text of a number. -/
def chars (n : Numeral) : List Char := n.blanks ++ (n.sign.toList ++ n.digits)

/-- The number that is meant. -/
def value (n : Numeral) : Int :=
  if n.sign = some '-' then -(Span.value n.digits : Int) else Span.value n.digits

/-- **The numbers that are read in a place of a date.**  Only a year can have a sign, and then it
can have any number of digits. -/
structure Fits (p : DatePart) (n : Numeral) : Prop where
  blanks : ∀ c ∈ n.blanks, Text.isBlank c = true
  sign : ∀ c ∈ n.sign, p = .year ∧ (c = '-' ∨ c = '+')
  digits : ∀ c ∈ n.digits, c.isDigit = true
  low : n.digits ≠ []
  high : n.sign = none → n.digits.length ≤ p.width

/-- Digits alone. -/
def plain (ds : List Char) : Numeral := ⟨[], none, ds⟩

theorem fits_plain {ds : List Char} (h : IsNumeral 1 p.width ds) : (plain ds).Fits p where
  blanks := nofun
  sign := nofun
  digits := h.digits
  low := List.ne_nil_of_length_pos h.low
  high := fun _ => h.high

namespace Fits

theorem exists_digit (h : n.Fits p) : ∃ d ds, n.digits = d :: ds ∧ d.isDigit = true := by
  obtain ⟨d, ds, hds⟩ := List.exists_cons_of_ne_nil h.low
  exact ⟨d, ds, hds, h.digits d (by rw [hds]; simp)⟩

theorem isBlank_sign (h : n.Fits p) (hc : c ∈ n.sign) : Text.isBlank c = false := by
  rcases (h.sign c hc).2 with rfl | rfl <;> decide

theorem isDigit_sign (h : n.Fits p) (hc : c ∈ n.sign) : c.isDigit = false := by
  rcases (h.sign c hc).2 with rfl | rfl <;> decide

/-- A month and a day have no sign. -/
theorem sign_eq_none (h : n.Fits p) (hp : p ≠ .year) : n.sign = none :=
  Option.eq_none_iff_forall_not_mem.2 fun c hc => hp (h.sign c hc).1

/-- Behind the blanks there is something that is not blank. -/
theorem exists_cons (h : n.Fits p) (rest : List Char) :
    ∃ c more, n.sign.toList ++ n.digits ++ rest = c :: more ∧ Text.isBlank c = false := by
  cases hsign : n.sign with
  | none =>
      obtain ⟨d, ds, hds, hd⟩ := h.exists_digit
      exact ⟨d, ds ++ rest, by simp [hds], isBlank_of_isDigit hd⟩
  | some c => exact ⟨c, n.digits ++ rest, by simp, h.isBlank_sign hsign⟩

/-- The blanks of a number end where something else follows. -/
theorem split_blanks (h : n.Fits p) (rest : List Char) :
    (n.chars ++ rest).takeWhile Text.isBlank = n.blanks ∧
      (n.chars ++ rest).dropWhile Text.isBlank = n.sign.toList ++ n.digits ++ rest := by
  obtain ⟨c, more, hmore, hc⟩ := h.exists_cons rest
  unfold chars
  rw [List.append_assoc, List.takeWhile_append_of_pos h.blanks,
    List.dropWhile_append_of_pos h.blanks, hmore]
  simp [hc]

/-- So does its sign. -/
theorem split_sign (h : n.Fits p) (rest : List Char) :
    (n.sign.toList ++ n.digits ++ rest).takeWhile (!·.isDigit) = n.sign.toList ∧
      (n.sign.toList ++ n.digits ++ rest).dropWhile (!·.isDigit) = n.digits ++ rest := by
  obtain ⟨d, ds, hds, hd⟩ := h.exists_digit
  have hsign : ∀ c ∈ n.sign.toList, (!c.isDigit) = true := by
    intro c hc
    rw [h.isDigit_sign (Option.mem_toList.1 hc)]
    rfl
  rw [List.append_assoc, List.takeWhile_append_of_pos hsign,
    List.dropWhile_append_of_pos hsign, hds]
  simp [hd]

/-- Of a number every character is blank, a sign or a digit. -/
theorem ne_slash (h : n.Fits p) (hc : c ∈ n.chars) : c ≠ '/' := by
  rintro rfl
  simp only [chars, List.mem_append, Option.mem_toList] at hc
  rcases hc with hc | hc | hc
  · exact absurd (h.blanks _ hc) (by decide)
  · exact absurd (h.sign _ hc).2 (by decide)
  · exact absurd (h.digits _ hc) (by decide)

/-- **A number and what follows it can be told apart.** -/
theorem append_inj (h : n.Fits p) (h' : n'.Fits p) (hrest : EndsDigits rest)
    (hrest' : EndsDigits rest')
    (heq : n.chars ++ rest = n'.chars ++ rest') : n = n' ∧ rest = rest' := by
  obtain ⟨hblanks, hmore⟩ := h.split_blanks rest
  obtain ⟨hblanks', hmore'⟩ := h'.split_blanks rest'
  obtain ⟨hsign, hnumber⟩ := h.split_sign rest
  obtain ⟨hsign', hnumber'⟩ := h'.split_sign rest'
  have hdigits := takeWhile_isDigit_append h.digits hrest
  have hbehind := dropWhile_isDigit_append h.digits hrest
  rw [heq, hblanks'] at hblanks
  rw [← hmore, heq, hmore', hsign'] at hsign
  rw [← hmore, heq, hmore', hnumber'] at hnumber
  rw [← hnumber, takeWhile_isDigit_append h'.digits hrest'] at hdigits
  rw [← hnumber, dropWhile_isDigit_append h'.digits hrest'] at hbehind
  have hsame : n'.sign = n.sign := by simpa using congrArg List.head? hsign
  refine ⟨?_, hbehind.symm⟩
  cases n
  cases n'
  cases hblanks
  cases hsame
  cases hdigits
  rfl

end Fits

end Numeral

/-! ### Reading a number -/

/-- Digits are read, whatever comes behind them, if no fewer of them are taken than there are. -/
theorem digits_append {limit : Option Nat} {ds : List Char} (hne : ds ≠ [])
    (hds : ∀ c ∈ ds, c.isDigit = true) (hlimit : ∀ m, limit = some m → ds.length ≤ m)
    (hrest : EndsDigits rest) :
    digits limit (ds ++ rest) = .ok (Nat.ofDigitChars 10 ds 0, rest) := by
  obtain ⟨c, ds, rfl⟩ := List.exists_cons_of_ne_nil hne
  have hrun := takeWhile_isDigit_append hds hrest
  have htaken :
      Except.ok (Nat.ofDigitChars 10 (c :: ds) 0, List.drop (c :: ds).length (c :: ds ++ rest)) =
      (.ok (Nat.ofDigitChars 10 (c :: ds) 0, rest) : Except DateError (Nat × List Char)) := by
    rw [List.drop_left]
  unfold digits
  rw [hrun]
  cases limit with
  | none => exact htaken
  | some m =>
      simp only [List.take_of_length_le (hlimit m rfl)]
      exact htaken

/-- Digits are taken from those at the front. -/
theorem exists_taken (limit : Option Nat) (s : List Char) :
    ∃ ds, ds <+: s.takeWhile Char.isDigit ∧ (∀ m, limit = some m → ds.length ≤ m) ∧
      digits limit s = match s, ds with
        | [], _ => .error .tooShort
        | _ :: _, [] => .error .invalid
        | _ :: _, _ :: _ => .ok (value ds, s.drop ds.length) := by
  cases limit with
  | none => exact ⟨_, List.prefix_refl _, nofun, rfl⟩
  | some m =>
      refine ⟨_, List.take_prefix m _, ?_, rfl⟩
      rintro _ ⟨⟩
      exact List.length_take_le _ _

/-- Digits that are read stand at the front. -/
theorem exists_digits_of_eq_ok {limit : Option Nat} {v : Nat} (h : digits limit s = .ok (v, rest)) :
    ∃ ds, s = ds ++ rest ∧ ds ≠ [] ∧ (∀ c ∈ ds, c.isDigit = true) ∧
      (∀ m, limit = some m → ds.length ≤ m) ∧ v = value ds := by
  obtain ⟨ds, hfront, hlimit, htaken⟩ := exists_taken limit s
  have hs : s = ds ++ s.drop ds.length :=
    (List.prefix_iff_eq_append.1 (hfront.trans (List.takeWhile_prefix _))).symm
  have hdigits : ∀ c ∈ ds, c.isDigit = true :=
    fun c hc => List.all_eq_true.1 List.all_takeWhile c (hfront.subset hc)
  rw [htaken] at h
  split at h
  · cases h
  · cases h
  · cases h
    exact ⟨_, hs, List.cons_ne_nil _ _, hdigits, hlimit, rfl⟩

/-- A year that is read has a sign or none, and digits. -/
theorem exists_numeral_of_year {v : Int} (h : year s = .ok (v, rest)) :
    ∃ n : Numeral, n.blanks = [] ∧ n.Fits .year ∧ s = n.chars ++ rest ∧ v = n.value := by
  unfold year at h
  split at h
  · obtain ⟨⟨k, more⟩, hread, ⟨⟩⟩ := Except.of_map_eq_ok h
    obtain ⟨ds, rfl, hne, hds, -, rfl⟩ := exists_digits_of_eq_ok hread
    exact ⟨⟨[], some '-', ds⟩, rfl, ⟨nofun, by simp, hds, hne, nofun⟩, rfl, rfl⟩
  · obtain ⟨⟨k, more⟩, hread, ⟨⟩⟩ := Except.of_map_eq_ok h
    obtain ⟨ds, rfl, hne, hds, -, rfl⟩ := exists_digits_of_eq_ok hread
    exact ⟨⟨[], some '+', ds⟩, rfl, ⟨nofun, by simp, hds, hne, nofun⟩, rfl, rfl⟩
  · obtain ⟨⟨k, more⟩, hread, ⟨⟩⟩ := Except.of_map_eq_ok h
    obtain ⟨ds, rfl, hne, hds, hfour, rfl⟩ := exists_digits_of_eq_ok hread
    exact ⟨⟨[], none, ds⟩, rfl, ⟨nofun, nofun, hds, hne, fun _ => hfour 4 rfl⟩, rfl, rfl⟩

/-- A month or a day that is read has one or two digits. -/
theorem exists_numeral_of_digits {v : Nat} (hp : p.width = 2)
    (h : digits (some 2) s = .ok (v, rest)) :
    ∃ n : Numeral, n.blanks = [] ∧ n.Fits p ∧ s = n.chars ++ rest ∧ (v : Int) = n.value := by
  obtain ⟨ds, rfl, hne, hds, htwo, rfl⟩ := exists_digits_of_eq_ok h
  exact ⟨⟨[], none, ds⟩, rfl, ⟨nofun, nofun, hds, hne, fun _ => hp ▸ htwo 2 rfl⟩, rfl, rfl⟩

/-- Reads the number in a place of a date. -/
def number (p : DatePart) (s : List Char) : Except DateError (Int × List Char) :=
  match p with
  | .year => year s
  | .month | .day => (digits (some 2) s).map fun r => (r.1, r.2)

/-- A number is read behind its blanks, and taken in if its place allows it. -/
theorem part_eq (p : DatePart) (f : DateFields) (s : List Char) :
    part p f s = (number p (s.dropWhile Text.isBlank)).bind fun r =>
      if p.Allows r.1 then .ok (f.set p r.1, r.2) else .error .outOfRange := by
  have hcast (v low high : Nat) : low ≤ v ∧ v ≤ high ↔
      (low : Int) ≤ v ∧ (v : Int) ≤ high := by omega
  unfold part number
  cases p with
  | year => rfl
  | month =>
      dsimp only
      rcases digits (some 2) (s.dropWhile Text.isBlank) with e | r
      · rfl
      · exact ite_congr (propext (hcast r.1 1 12)) (fun _ => rfl) fun _ => rfl
  | day =>
      dsimp only
      rcases digits (some 2) (s.dropWhile Text.isBlank) with e | r
      · rfl
      · exact ite_congr (propext (hcast r.1 1 31)) (fun _ => rfl) fun _ => rfl

theorem exists_numeral_of_number {v : Int} (h : number p s = .ok (v, rest)) :
    ∃ n : Numeral, n.blanks = [] ∧ n.Fits p ∧ s = n.chars ++ rest ∧ v = n.value := by
  cases p with
  | year => exact exists_numeral_of_year h
  | month =>
      obtain ⟨⟨k, more⟩, hread, ⟨⟩⟩ := Except.of_map_eq_ok h
      exact exists_numeral_of_digits rfl hread
  | day =>
      obtain ⟨⟨k, more⟩, hread, ⟨⟩⟩ := Except.of_map_eq_ok h
      exact exists_numeral_of_digits rfl hread

/-- **A number that is read is a number in writing.** -/
theorem exists_numeral_of_part (h : part p f s = .ok (g, rest)) :
    ∃ n : Numeral, n.Fits p ∧ s = n.chars ++ rest ∧ g = f.set p n.value := by
  rw [part_eq] at h
  obtain ⟨⟨v, more⟩, hread, h⟩ := Except.of_bind_eq_ok h
  obtain ⟨n, hblanks, hn, hs, rfl⟩ := exists_numeral_of_number hread
  split at h
  case isFalse => cases h
  case isTrue =>
    cases h
    -- the blanks have been passed over
    refine ⟨{ n with blanks := s.takeWhile Text.isBlank }, ?_, ?_, rfl⟩
    · exact ⟨fun c hc => List.all_eq_true.1 List.all_takeWhile c hc, hn.sign, hn.digits,
        hn.low, hn.high⟩
    · have hsplit : s.takeWhile Text.isBlank ++ s.dropWhile Text.isBlank = s :=
        List.takeWhile_append_dropWhile
      rw [hs] at hsplit
      refine hsplit.symm.trans ?_
      simp [Numeral.chars, hblanks]

/-- A year without a sign is read from its digits. -/
theorem year_of_digits {ds : List Char} (hne : ds ≠ []) (hds : ∀ c ∈ ds, c.isDigit = true)
    (hfour : ds.length ≤ 4) (hrest : EndsDigits rest) :
    year (ds ++ rest) = .ok ((value ds : Int), rest) := by
  have hread : digits (some 4) (ds ++ rest) = .ok (value ds, rest) := by
    refine digits_append hne hds (fun m hm => ?_) hrest
    cases hm
    exact hfour
  obtain ⟨c, ds, rfl⟩ := List.exists_cons_of_ne_nil hne
  have hc : c.isDigit = true := hds c (by simp)
  unfold year
  split
  · next h => cases h; exact absurd hc (by decide)
  · next h => cases h; exact absurd hc (by decide)
  · rw [hread]
    rfl

theorem number_chars (hn : n.Fits p) (hrest : EndsDigits rest) :
    number p (n.sign.toList ++ n.digits ++ rest) = .ok (n.value, rest) := by
  have htwo (hp : p ≠ .year) (hwidth : p.width = 2) :
      (digits (some 2) (n.sign.toList ++ n.digits ++ rest)).map (fun r => ((r.1 : Int), r.2)) =
        .ok (n.value, rest) := by
    have hsign := hn.sign_eq_none hp
    have hread : digits (some 2) (n.digits ++ rest) = .ok (value n.digits, rest) := by
      refine digits_append hn.low hn.digits (fun m hm => ?_) hrest
      cases hm
      exact hwidth ▸ hn.high hsign
    simp only [hsign, Option.toList_none, List.nil_append, hread, Numeral.value]
    rfl
  cases p with
  | year =>
      obtain ⟨blanks, sign, ds⟩ := n
      cases sign with
      | none => exact year_of_digits hn.low hn.digits (hn.high rfl) hrest
      | some c =>
          have hread : digits none (ds ++ rest) = .ok (value ds, rest) :=
            digits_append hn.low hn.digits nofun hrest
          rcases (hn.sign c rfl).2 with rfl | rfl
          · show (digits none (ds ++ rest)).map _ = _
            rw [hread]
            rfl
          · show (digits none (ds ++ rest)).map _ = _
            rw [hread]
            rfl
  | month => exact htwo nofun rfl
  | day => exact htwo nofun rfl

/-- **A number in writing is read,** if its place allows it. -/
theorem part_chars (hn : n.Fits p) (hallows : p.Allows n.value) (hrest : EndsDigits rest)
    (f : DateFields) : part p f (n.chars ++ rest) = .ok (f.set p n.value, rest) := by
  rw [part_eq, (hn.split_blanks rest).2, number_chars hn hrest]
  exact if_pos hallows

/-! ### Reading a date -/

/-- The text of numbers with separators between them. -/
def joined (separator : Char) : List Numeral → List Char
  | [] => []
  | [n] => n.chars
  | n :: m :: ns => n.chars ++ separator :: joined separator (m :: ns)

/-- What is read so far, with more numbers in their places. -/
def fill (f : DateFields) : List DatePart → List Numeral → DateFields
  | p :: ps, n :: ns => fill (f.set p n.value) ps ns
  | _, _ => f

variable {ps : List DatePart} {ns ns' : List Numeral}

theorem eq_cons_of_separatorAt (h : separatorAt c s = .ok rest) : s = c :: rest := by
  unfold separatorAt at h
  split at h
  · cases h
  · split at h
    · next hd =>
        cases h
        rw [hd]
    · cases h

/-- **The numbers of a date are read one after the other.** -/
theorem fields_joined (hns : List.Forall₂ (fun p n => n.Fits p ∧ p.Allows n.value) ps ns)
    (hc : c.isDigit = false) (f : DateFields) :
    fields c ps f (joined c ns) = .ok (fill f ps ns, []) := by
  induction hns generalizing f with
  | nil => rfl
  | @cons p n ps ns hn hns ih =>
      cases hns with
      | nil =>
          have hread := part_chars hn.1 hn.2 endsDigits_nil f
          rwa [List.append_nil] at hread
      | @cons q m ps ns hm hns =>
          rw [joined, fields, part_chars hn.1 hn.2 (endsDigits_cons hc _) f]
          show (separatorAt c (c :: _)).bind _ = _
          rw [separatorAt, if_pos rfl]
          exact ih (f.set p n.value)

theorem exists_numerals_of_fields (h : fields c ps f s = .ok (g, [])) :
    ∃ ns, List.Forall₂ (fun p n => n.Fits p) ps ns ∧ s = joined c ns ∧ g = fill f ps ns := by
  induction ps generalizing f s with
  | nil =>
      cases h
      exact ⟨[], .nil, rfl, rfl⟩
  | cons p ps ih =>
      cases ps with
      | nil =>
          obtain ⟨n, hn, rfl, rfl⟩ := exists_numeral_of_part h
          exact ⟨[n], .cons hn .nil, List.append_nil _, rfl⟩
      | cons q ps =>
          obtain ⟨⟨f', rest⟩, hpart, h⟩ := Except.of_bind_eq_ok h
          obtain ⟨n, hn, rfl, rfl⟩ := exists_numeral_of_part hpart
          obtain ⟨more, hsep, h⟩ := Except.of_bind_eq_ok h
          obtain ⟨ns, hns, rfl, rfl⟩ := ih h
          obtain rfl := eq_cons_of_separatorAt hsep
          cases hns with
          | cons hm hns => exact ⟨n :: _ :: _, .cons hn (.cons hm hns), rfl, rfl⟩

/-- **A text has its numbers in one way only.** -/
theorem joined_injective (hc : c.isDigit = false) (hns : List.Forall₂ (fun p n => n.Fits p) ps ns)
    (hns' : List.Forall₂ (fun p n => n.Fits p) ps ns') (h : joined c ns = joined c ns') :
    ns = ns' := by
  induction hns generalizing ns' with
  | nil =>
      cases hns'
      rfl
  | @cons p n ps ns hn hns ih =>
      cases hns' with
      | @cons _ n' _ ns' hn' hns' =>
          cases hns with
          | nil =>
              cases hns'
              have hsame : n.chars ++ [] = n'.chars ++ [] := congrArg (· ++ []) h
              rw [(hn.append_inj hn' endsDigits_nil endsDigits_nil hsame).1]
          | cons hm hns =>
              cases hns' with
              | cons hm' hns' =>
                  obtain ⟨rfl, hmore⟩ :=
                    hn.append_inj hn' (endsDigits_cons hc _) (endsDigits_cons hc _) h
                  rw [ih (.cons hm' hns') (List.cons.inj hmore).2]

/-! ### The two layouts -/

/-- **A date in writing:** a number for each of its places. -/
structure Spells (w : DatePart → Numeral) (d : Date) : Prop where
  fits : ∀ p, (w p).Fits p
  value : ∀ p, (w p).value = d.number p

/-- The text of numbers in a layout. -/
def chars (l : DateLayout) (w : DatePart → Numeral) : List Char :=
  joined l.separator (l.parts.map w)

/-- Whether a layout is one of the two in use. -/
def InUse (l : DateLayout) : Prop := l = iso ∨ l = slashed

variable {l l' : DateLayout} {w w' : DatePart → Numeral} {d d' : Date}

theorem forall₂_map {R : DatePart → Numeral → Prop} (h : ∀ p, R p (w p)) (ps : List DatePart) :
    List.Forall₂ R ps (ps.map w) := by
  rw [List.forall₂_map_right_iff]
  exact List.forall₂_same.2 fun p _ => h p

theorem InUse.isDigit_separator (hl : l.InUse) : l.separator.isDigit = false := by
  rcases hl with rfl | rfl <;> decide

/-- All three numbers are read, each in its place. -/
theorem InUse.fill_eq (hl : l.InUse) (w : DatePart → Numeral) :
    fill ⟨0, 0, 0⟩ l.parts (l.parts.map w) =
      ⟨(w .year).value, (w .month).value.toNat, (w .day).value.toNat⟩ := by
  rcases hl with rfl | rfl <;> rfl

/-- The numbers of a layout are a number for each place. -/
theorem InUse.exists_eq_map (hl : l.InUse) (hns : List.Forall₂ (fun p n => n.Fits p) l.parts ns) :
    ∃ w, (∀ p, (w p).Fits p) ∧ ns = l.parts.map w := by
  rcases hl with rfl | rfl
  · rcases hns with _ | ⟨hy, _ | ⟨hm, _ | ⟨hd, _ | _⟩⟩⟩
    exact ⟨fun | .year => _ | .month => _ | .day => _,
      fun | .year => hy | .month => hm | .day => hd, rfl⟩
  · rcases hns with _ | ⟨hm, _ | ⟨hd, _ | ⟨hy, _ | _⟩⟩⟩
    exact ⟨fun | .year => _ | .month => _ | .day => _,
      fun | .year => hy | .month => hm | .day => hd, rfl⟩

/-- **What is read as a date is a date in writing.** -/
theorem read_eq_ok_iff (hl : l.InUse) : l.read s = .ok d ↔ ∃ w, Spells w d ∧ s = l.chars w := by
  constructor
  · intro h
    obtain ⟨⟨g, rest⟩, hfields, h⟩ := Except.of_bind_eq_ok h
    dsimp only at h
    split at h
    · cases h
    · obtain ⟨ns, hns, hs, hg⟩ := exists_numerals_of_fields hfields
      obtain ⟨w, hw, rfl⟩ := hl.exists_eq_map hns
      rw [hl.fill_eq] at hg
      subst hg
      split at h
      · next e he =>
          cases h
          obtain ⟨hy, hm, hd⟩ := Date.of?_eq_some_iff.1 he
          have hmonth := d.month_bounds
          have hday := d.day_bounds
          dsimp only at hy hm hd
          refine ⟨w, ⟨hw, fun p => ?_⟩, hs⟩
          cases p <;> simp only [Date.number] <;> omega
      · cases h
  · rintro ⟨w, hw, rfl⟩
    have hallows : ∀ p, (w p).Fits p ∧ p.Allows (w p).value := by
      intro p
      rw [hw.value]
      exact ⟨hw.fits p, p.allows_number d⟩
    have hfields : fields l.separator l.parts ⟨0, 0, 0⟩ (l.chars w) =
        .ok (⟨d.year, d.month, d.day⟩, []) := by
      have hread := fields_joined (forall₂_map hallows l.parts) hl.isDigit_separator ⟨0, 0, 0⟩
      rw [hl.fill_eq, hw.value, hw.value, hw.value] at hread
      exact hread
    unfold read
    rw [hfields]
    dsimp only [Bind.bind, Except.bind]
    rw [Date.of?_self]

/-! ### One reading -/

theorem mem_joined {separator : Char} (h : c ∈ joined separator ns) :
    c = separator ∨ ∃ n ∈ ns, c ∈ n.chars := by
  induction ns with
  | nil => cases h
  | cons n ns ih =>
      cases ns with
      | nil => exact .inr ⟨n, List.mem_singleton_self n, h⟩
      | cons m ns =>
          rcases List.mem_append.1 h with hn | hrest
          · exact .inr ⟨n, List.mem_cons_self, hn⟩
          rcases List.mem_cons.1 hrest with rfl | hrest
          · exact .inl rfl
          rcases ih hrest with hsep | ⟨k, hk, hck⟩
          · exact .inl hsep
          · exact .inr ⟨k, List.mem_cons_of_mem n hk, hck⟩

/-- A text between slashes is not one between hyphens. -/
theorem Spells.chars_ne (hw : Spells w d) (w' : DatePart → Numeral) :
    iso.chars w ≠ slashed.chars w' := by
  intro h
  have hslash : '/' ∈ slashed.chars w' := by simp [chars, joined, slashed]
  rw [← h] at hslash
  rcases mem_joined hslash with hsep | ⟨n, hn, hc⟩
  · cases hsep
  · obtain ⟨p, -, rfl⟩ := List.mem_map.1 hn
    exact (hw.fits p).ne_slash hc rfl

/-- Numbers stand for one date. -/
theorem Spells.unique (hw : Spells w d) (hw' : Spells w d') : d = d' := by
  have hnumber (p : DatePart) : d.number p = d'.number p := (hw.value p).symm.trans (hw'.value p)
  have hyear : d.year = d'.year := hnumber .year
  have hmonth : d.month = d'.month := Int.ofNat_inj.1 (hnumber .month)
  have hday : d.day = d'.day := Int.ofNat_inj.1 (hnumber .day)
  cases d
  cases d'
  cases hyear
  cases hmonth
  cases hday
  rfl

/-- **A text is a date in writing in one way only:** in one layout and with one number in each
place. -/
theorem InUse.chars_injective (hl : l.InUse) (hl' : l'.InUse) (hw : Spells w d) (hw' : Spells w' d')
    (h : l.chars w = l'.chars w') : l = l' ∧ w = w' ∧ d = d' := by
  have hsame : l = l' := by
    rcases hl with rfl | rfl <;> rcases hl' with rfl | rfl
    · rfl
    · exact absurd h (hw.chars_ne w')
    · exact absurd h.symm (hw'.chars_ne w)
    · rfl
  subst hsame
  have hnumbers : l.parts.map w = l.parts.map w' :=
    joined_injective hl.isDigit_separator (forall₂_map hw.fits _) (forall₂_map hw'.fits _) h
  have hplaces : ∀ p, p ∈ l.parts := by
    intro p
    rcases hl with rfl | rfl <;> cases p <;> decide
  obtain rfl : w = w' := funext fun p => List.map_inj_left.1 hnumbers p (hplaces p)
  exact ⟨rfl, rfl, hw.unique hw'⟩

/-! ### Digits -/

/-- A year from 1000 on is written in at least four digits. -/
theorem Spells.four_le_length (hw : Spells w d) (hyear : 1000 ≤ d.year) :
    4 ≤ (w .year).digits.length := by
  have hvalue : (w .year).value = d.year := hw.value .year
  have hlarge : 1000 ≤ Span.value (w .year).digits := by
    unfold Numeral.value at hvalue
    split at hvalue <;> omega
  have hbelow : Span.value (w .year).digits < 10 ^ (w .year).digits.length :=
    ofDigitChars_lt (hw.fits .year).digits
  refine Nat.not_lt.1 fun hshort => ?_
  have hthree : 10 ^ (w .year).digits.length ≤ 10 ^ 3 := Nat.pow_le_pow_right (by decide) (by omega)
  omega

/-- The numbers of a date in digits alone. -/
def inDigits (ys ms ks : List Char) : DatePart → Numeral
  | .year => .plain ys
  | .month => .plain ms
  | .day => .plain ks

theorem spells_inDigits {ys ms ks : List Char} (hys : IsNumeral 1 4 ys) (hms : IsNumeral 1 2 ms)
    (hks : IsNumeral 1 2 ks) (hyear : d.year = value ys) (hmonth : d.month = value ms)
    (hday : d.day = value ks) : Spells (inDigits ys ms ks) d where
  fits := fun
    | .year => Numeral.fits_plain hys
    | .month => Numeral.fits_plain hms
    | .day => Numeral.fits_plain hks
  value := fun
    | .year => hyear.symm
    | .month => congrArg Int.ofNat hmonth.symm
    | .day => congrArg Int.ofNat hday.symm

end DateLayout

end Coffer
