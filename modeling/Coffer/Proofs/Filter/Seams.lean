/-
**Filter texts put together.**

A text that reads as tokens reads as the same tokens in front of blanks, and what stands behind the
blanks is read as if it stood alone.  A text in quotes is one token wherever it starts, with every
character as it was: behind the closing quote reading starts anew, whatever stands there, so that
nothing behind it is read into the token and nothing of it is read twice.  The same holds of the
value of a field in quotes.

Main results:

* `Coffer.Token.scan_append` — a text that is read in front of a boundary;
* `Coffer.Token.scan_part_by_part` — **texts are read part by part.**
-/

import Coffer.Proofs.Filter.Tokens

set_option autoImplicit false

namespace Coffer.Token

variable {s rest w : List Char} {ts : List Token}

theorem isBoundary_of_isBlank {c : Char} (h : Text.isBlank c = true) : isBoundary c = true := by
  have hquote : c ≠ '"' := by
    rintro rfl
    exact absurd h (by decide)
  simp [isBoundary, isWordChar, h, hquote]

/-- Blanks in front of a text are passed over. -/
theorem scan_append_of_isBlank (h : ∀ c ∈ w, Text.isBlank c = true) (rest : List Char) :
    scan (w ++ rest) = scan rest := by
  induction w with
  | nil => rfl
  | cons c w ih =>
      rw [List.forall_mem_cons] at h
      rw [List.cons_append, scan_cons_of_isBlank h.1, ih h.2]

/-- A text that is read in front of nothing, or of what starts with a boundary. -/
theorem scan_append (h : scan s = .ok ts) (hrest : ∀ c ∈ rest.head?, isBoundary c = true) :
    scan (s ++ rest) = (scan rest).map (ts ++ ·) := by
  cases rest with
  | nil =>
      rw [List.append_nil, h]
      exact congrArg Except.ok (List.append_nil ts).symm
  | cons c rest => exact scan_append_cons h (hrest c rfl) rest

theorem scan_append_blanks (h : scan s = .ok ts) (hne : w ≠ [])
    (hw : ∀ c ∈ w, Text.isBlank c = true)
    (rest : List Char) : scan (s ++ w ++ rest) = (scan rest).map (ts ++ ·) := by
  have hhead : ∀ c ∈ (w ++ rest).head?, isBoundary c = true := by
    obtain ⟨c, w, rfl⟩ := List.exists_cons_of_ne_nil hne
    rintro d ⟨⟩
    exact isBoundary_of_isBlank (hw c (by simp))
  rw [List.append_assoc, scan_append h hhead, scan_append_of_isBlank hw]

/-- **Texts are read part by part.**  Tokens in front of blanks, or of a boundary of another kind,
come before the tokens of what stands behind, and if that cannot be read its error is the error of
the whole.  A text in quotes, as it is written in a canonical text, and the value of a field in
quotes are one token of that text, followed by the tokens of anything that stands behind them. -/
theorem scan_part_by_part :
    (∀ s ts, scan s = .ok ts →
      (∀ w rest, w ≠ [] → (∀ c ∈ w, Text.isBlank c = true) →
        scan (s ++ w ++ rest) = (scan rest).map (ts ++ ·)) ∧
      ∀ rest, (∀ c ∈ rest.head?, isBoundary c = true) →
        scan (s ++ rest) = (scan rest).map (ts ++ ·)) ∧
    (∀ s rest, scan (Filter.quoteChars s ++ rest) =
      (scan rest).map (.quoted (String.ofList s) :: ·)) ∧
    ∀ name s rest, isFieldName name = true →
      scan (name ++ ':' :: Filter.quoteChars s ++ rest) =
        (scan rest).map (.field (String.ofList name) (String.ofList s) true :: ·) := by
  refine ⟨fun s ts h => ⟨fun w rest hne hw => ?_, fun rest hrest => ?_⟩, fun s rest => ?_,
    fun name s rest hname => ?_⟩
  · exact scan_append_blanks h hne hw rest
  · exact scan_append h hrest
  · exact scan_append_of_run (run_quoteChars s) rest
  · exact scan_append_of_run (run_field_quoteChars hname s) rest

/-- Blanks of other kinds end a word, a value with a quote and a backslash in it is followed by a
parenthesis and by what could open another value, and a quote that stays open is an error of the
whole. -/
theorem scan_part_by_part_description :
    scan "(desc:tea\t\u2003or".toList =
      (scan "or".toList).map ([.leftParen, .field "desc" "tea" false] ++ ·) ∧
    scan "desc:\"5\\\" \\\\\")cat:\"open".toList =
      (scan ")cat:\"open".toList).map (.field "desc" "5\" \\" true :: ·) ∧
    scan ")cat:\"open".toList = .error .unterminatedQuote := by
  obtain ⟨hblanks, -, hfield⟩ := scan_part_by_part
  refine ⟨?_, ?_, rfl⟩
  · exact (hblanks "(desc:tea".toList _ rfl).1 "\t\u2003".toList _ (by decide)
      (List.all_eq_true.1 rfl)
  · exact hfield "desc".toList "5\" \\".toList ")cat:\"open".toList (by decide)

end Coffer.Token
