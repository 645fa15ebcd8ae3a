/-
**Blank characters and trimming.**

A character is blank if it has the Unicode property `White_Space`; there are twenty-five of them.

Main definitions: `Coffer.Text.isBlank`, `Coffer.Text.trimChars`, `Coffer.Text.trim`.

Main results:

* `Coffer.Text.isBlank_of_isWhitespace` — every character that is white space in ASCII is blank;
* `Coffer.Text.trimChars_eq_nil_iff` — only a text of blanks trims to nothing.
-/

set_option autoImplicit false

namespace Coffer.Text

/-- The code points of the blank characters. -/
def blankPoints : List Nat :=
  [0x09, 0x0A, 0x0B, 0x0C, 0x0D, 0x20, 0x85, 0xA0, 0x1680, 0x2000, 0x2001, 0x2002, 0x2003, 0x2004,
   0x2005, 0x2006, 0x2007, 0x2008, 0x2009, 0x200A, 0x2028, 0x2029, 0x202F, 0x205F, 0x3000]

/-- Whether a character is blank. -/
def isBlank (c : Char) : Bool := blankPoints.contains c.toNat

/-- Every character that is white space in ASCII is blank. -/
theorem isBlank_of_isWhitespace {c : Char} (h : c.isWhitespace = true) : isBlank c = true := by
  simp only [Char.isWhitespace, Bool.or_eq_true, decide_eq_true_eq] at h
  rcases h with ((h | h) | h) | h <;> subst h <;> decide

/-- Drops the blanks at both ends. -/
def trimChars (s : List Char) : List Char :=
  ((s.dropWhile isBlank).reverse.dropWhile isBlank).reverse

/-- A text without the blanks at both ends. -/
def trim (s : String) : String := String.ofList (trimChars s.toList)

/-- Dropping from the front leaves nothing exactly when all of it is dropped. -/
theorem dropWhile_eq_nil_iff_all {p : Char → Bool} {s : List Char} :
    s.dropWhile p = [] ↔ ∀ c ∈ s, p c = true := by
  induction s with
  | nil => simp
  | cons c r ih =>
      by_cases h : p c = true
      · simp [h, ih]
      · simp [h]

/-- Only a text of blanks trims to nothing. -/
theorem trimChars_eq_nil_iff {s : List Char} :
    trimChars s = [] ↔ ∀ c ∈ s, isBlank c = true := by
  constructor
  · intro h
    have hr : (s.dropWhile isBlank).reverse.dropWhile isBlank = [] := by
      simpa [trimChars] using h
    have hall := dropWhile_eq_nil_iff_all.1 hr
    cases hd : s.dropWhile isBlank with
    | nil => exact dropWhile_eq_nil_iff_all.1 hd
    | cons c r =>
        have hc : isBlank c = true := hall c (by simp [hd])
        have hne : ¬ isBlank c = true := by
          have := List.head?_dropWhile_not isBlank s
          simp [hd] at this
          simp [this]
        exact absurd hc hne
  · intro h
    simp [trimChars, dropWhile_eq_nil_iff_all.2 h]

end Coffer.Text
