/-
**What a column of dates holds.**

A date is stored as its text.  The column prefers numbers, though: a text that is a number, with
blanks around it or not, is kept as that number, as an integer where its value is one of 64 bits.
The text of a date has separators between its digits and is never a number, so this happens only to
texts that somebody else wrote there.

Main definitions:

* `Coffer.DateCell` — a text or a number;
* `Coffer.DateCell.ofText` — what becomes of a text;
* `Coffer.DateCell.le` — the order of the column, numbers before texts.

Main results: `Coffer.DateCell.ofText_iso` — the text of a date stays a text.
-/

import Coffer.Calendar.DateText
import Coffer.Number.Reading

set_option autoImplicit false

namespace Coffer

/-- What a column of dates holds. -/
inductive DateCell where
  | integer (n : Int)
  | real (x : Float)
  | text (s : String)
  deriving DecidableEq

namespace DateCell

/-- Whether a character may stand around a number: a space, a tab or a line break. -/
def isSpace (c : Char) : Bool := c.toNat == 0x20 || (0x09 ≤ c.toNat && c.toNat ≤ 0x0D)

/-- A text without the spaces at both ends. -/
def unspaced (s : List Char) : List Char :=
  ((s.dropWhile isSpace).reverse.dropWhile isSpace).reverse

/-- The cell of a number: an integer if the number is whole and within the range of 64 bits. -/
def ofNumber (x : Float) : DateCell :=
  let w := Binary64.magnitude x
  let ones := Binary64.units w / 2 ^ 1074
  -- from `2^63` on a number stays a number with a fraction, the smallest integer included
  if Binary64.units w % 2 ^ 1074 = 0 ∧ ones < 2 ^ 63 then
    .integer (Reading.withSign (Binary64.isNegative x) ones)
  else .real x

/-- **What becomes of a text** that is written into the column. -/
def ofText (s : String) : DateCell :=
  let core := unspaced s.toList
  -- digits alone are read exactly, which a number of 53 bits may not be
  match Reading.int64? (String.ofList core) with
  | some n => .integer n
  | none =>
    let (negative, rest) := Reading.sign core
    match Reading.digits? negative rest with
    | some x => ofNumber x
    | none => .text s

/-- What a number in a cell is worth, counted exactly in steps of `2^-1074`; a text counts for
nothing. Infinity counts as the power of two that would come next. -/
def worth : DateCell → Int
  | .integer n => n * 2 ^ 1074
  | .real x => Reading.withSign (Binary64.isNegative x) (Binary64.units (Binary64.magnitude x))
  | .text _ => 0

/-- **The order of the column:** numbers by their value, and after them texts character by
character. -/
def le : DateCell → DateCell → Bool
  | .text a, .text b => decide (a ≤ b)
  | .text _, _ => false
  | _, .text _ => true
  | a, b => decide (a.worth ≤ b.worth)

/-! ### The text of a date -/

/-- A decimal is made of digits and a point. -/
theorem isDigit_or_of_pointed? {s : List Char} {p : List Char × List Char}
    (h : Reading.pointed? s = some p) : ∀ c ∈ s, c.isDigit = true ∨ c = '.' := by
  intro c hc
  rw [← List.takeWhile_append_dropWhile (p := Char.isDigit) (l := s)] at hc
  rcases List.mem_append.1 hc with hc | hc
  · exact .inl (List.all_eq_true.1 List.all_takeWhile c hc)
  · unfold Reading.pointed? at h
    simp only at h
    split at h
    · next hd => simp [hd] at hc
    · next frac hd =>
        split at h
        · next hf =>
            rw [hd] at hc
            rcases List.mem_cons.1 hc with rfl | hc
            · exact .inr rfl
            · exact .inl (List.all_eq_true.1 hf.1 c hc)
        · cases h
    · cases h

/-- Only the first character can be dropped as a sign. -/
theorem mem_sign_of_mem_tail {c : Char} {s : List Char} (h : c ∈ s.tail) :
    c ∈ (Reading.sign s).2 := by
  unfold Reading.sign
  split
  · exact h
  · exact h
  · exact List.mem_of_mem_tail h

/-- What is left behind the sign was there before. -/
theorem mem_of_mem_sign {c : Char} {s : List Char} (h : c ∈ (Reading.sign s).2) : c ∈ s := by
  unfold Reading.sign at h
  split at h
  · exact List.mem_cons_of_mem _ h
  · exact List.mem_cons_of_mem _ h
  · exact h

/-- A text without spaces keeps all of its characters. -/
theorem unspaced_eq_self {s : List Char} (h : ∀ c ∈ s, isSpace c = false) : unspaced s = s := by
  have hd : ∀ t : List Char, (∀ c ∈ t, isSpace c = false) → t.dropWhile isSpace = t := by
    intro t ht
    cases t with
    | nil => rfl
    | cons c rest => rw [List.dropWhile_cons, if_neg (by simp [ht c])]
  rw [unspaced, hd s h, hd s.reverse fun c hc => h c (List.mem_reverse.1 hc), List.reverse_reverse]

/-- Whether a character can be in the text of a date. -/
def isDateChar (c : Char) : Bool := c.isDigit || c == '-' || c == '+'

/-- The characters of the text of a date stand between the signs and the digits. -/
theorem toNat_of_isDateChar {c : Char} (h : isDateChar c = true) :
    0x2B ≤ c.toNat ∧ c.toNat ≤ 0x39 := by
  simp only [isDateChar, Bool.or_eq_true, beq_iff_eq] at h
  rcases h with (h | rfl) | rfl
  · have hzero : '0'.toNat = 0x30 := rfl
    have hnine : '9'.toNat = 0x39 := rfl
    have := Char.isDigit_iff_toNat.1 h
    omega
  · decide
  · decide

/-- No character of the text of a date is a space, or the letter of an exponent. -/
theorem not_isSpace_of_isDateChar {c : Char} (h : isDateChar c = true) :
    isSpace c = false ∧ (c != 'e' && c != 'E') = true := by
  have hrange := toNat_of_isDateChar h
  constructor
  · simp [isSpace]
    omega
  · have he : c ≠ 'e' := fun he => by subst he; exact absurd hrange (by decide)
    have hE : c ≠ 'E' := fun he => by subst he; exact absurd hrange (by decide)
    simp [he, hE]

/-- A text of digits and signs with a hyphen behind its first character is no number. -/
theorem ofText_of_hyphen {s : String} (hs : ∀ c ∈ s.toList, isDateChar c = true)
    (hh : '-' ∈ s.toList.tail) : ofText s = .text s := by
  have hcore : unspaced s.toList = s.toList :=
    unspaced_eq_self fun c hc => (not_isSpace_of_isDateChar (hs c hc)).1
  have hmem := mem_sign_of_mem_tail hh
  have hint : Reading.int64? s = none := by
    have : Reading.natural? (Reading.sign s.toList).2 = none := by
      rw [Reading.natural?, if_neg]
      rintro ⟨-, h⟩
      exact absurd (List.all_eq_true.1 h _ hmem) (by decide)
    simp [Reading.int64?, Reading.integer?, this]
  have hdig : ∀ b, Reading.digits? b (Reading.sign s.toList).2 = none := by
    intro b
    have hwhole : (Reading.sign s.toList).2.takeWhile (fun c => c != 'e' && c != 'E')
        = (Reading.sign s.toList).2 := by
      have hnone : (Reading.sign s.toList).2.dropWhile (fun c => c != 'e' && c != 'E') = [] :=
        Text.dropWhile_eq_nil_iff_all.2 fun c hc =>
          (not_isSpace_of_isDateChar (hs c (mem_of_mem_sign hc))).2
      simpa [hnone] using List.takeWhile_append_dropWhile (p := fun c => c != 'e' && c != 'E')
        (l := (Reading.sign s.toList).2)
    have hpoint : Reading.pointed? (Reading.sign s.toList).2 = none := by
      cases hp : Reading.pointed? (Reading.sign s.toList).2 with
      | none => rfl
      | some p => exact absurd (isDigit_or_of_pointed? hp _ hmem) (by decide)
    simp only [Reading.digits?, hwhole, hpoint]
  simp [ofText, hcore, hint, hdig]

/-- A number in a date is written in digits. -/
theorem isDateChar_of_mem_padded {width n : Nat} {c : Char} (h : c ∈ Binary64.padded width n) :
    isDateChar c = true := by
  unfold Binary64.padded at h
  rcases List.mem_append.1 h with h | h
  · rw [List.eq_of_mem_replicate h]; decide
  · have := Nat.isDigit_of_mem_toDigits (b := 10) (by decide) (by decide) h
    simp [isDateChar, this]

/-- The text of a date is made of digits and signs. -/
theorem isDateChar_of_mem_isoChars {d : Date} {c : Char} (h : c ∈ d.isoChars) :
    isDateChar c = true := by
  have hyear : c ∈ d.yearText → isDateChar c = true := by
    intro hc
    unfold Date.yearText Date.yearChars at hc
    split at hc
    · exact isDateChar_of_mem_padded hc
    · rcases List.mem_cons.1 hc with rfl | hc
      · split <;> decide
      · exact isDateChar_of_mem_padded hc
  have hpart {n : Nat} : c ∈ '-' :: Binary64.padded 2 n → isDateChar c = true := by
    intro hc
    rcases List.mem_cons.1 hc with rfl | hc
    · decide
    · exact isDateChar_of_mem_padded hc
  rcases List.mem_append.1 h with hc | hc
  · rcases List.mem_append.1 hc with hc | hc
    · exact hyear hc
    · exact hpart hc
  · exact hpart hc

/-- **The text of a date stays a text.** -/
theorem ofText_iso (d : Date) : ofText d.iso = .text d.iso := by
  apply ofText_of_hyphen
  · intro c hc
    rw [Date.iso, String.toList_ofList] at hc
    exact isDateChar_of_mem_isoChars hc
  · have hne : d.monthText ≠ [] := by simp [Date.monthText]
    rw [Date.iso, String.toList_ofList, Date.isoChars, List.tail_append_of_ne_nil hne]
    simp

end DateCell

end Coffer
