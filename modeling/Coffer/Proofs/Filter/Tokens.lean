/-
**Reading tokens one after another.**

A text that reads as a row of tokens still does so in front of a blank or a parenthesis, and what
stands behind is read as if it stood alone.  So the tokens of a filter text can be found part by
part: words, quoted texts and quoted values are read here, and larger texts are put together.

Main results:

* `Coffer.Token.scan_append_cons` — **reading starts anew at a blank or a parenthesis;**
* `Coffer.Token.scan_append_of_run` — and between tokens;
* `Coffer.Token.scan_of_isWordChar` — a word is read as one token;
* `Coffer.Token.scan_quoteChars` — a text in quotes is read back;
* `Coffer.Token.scan_field_quoteChars` — so is the value of a field in quotes;
* `Coffer.Token.isBlank_of_scan_eq_nil` — only a text of blanks has no tokens.
-/

import Coffer.Filter.Canonical
import Coffer.Proofs.Except

set_option autoImplicit false

namespace Coffer.Token

/-! ### Where reading starts anew -/

/-- Whether a character ends a word and cannot open the value of a field. -/
def isBoundary (c : Char) : Bool := !isWordChar c && c != '"'

/-- At a boundary, what the reader is in the middle of is finished as at the end of the text. -/
theorem step_of_isBoundary {m : Mode} {last : List Token} {c : Char} (h : finish m = .ok last)
    (hc : isBoundary c = true) : step m c = ((start c).1, last ++ (start c).2) := by
  obtain ⟨hword, hquote⟩ : isWordChar c = false ∧ c ≠ '"' := by simpa [isBoundary] using hc
  cases m with
  | gap => cases h; rfl
  | word taken =>
      cases h
      simp [step, hword, hquote]
  | quoted name taken => cases h
  | escaped name taken => cases h

/-- What a text of tokens leaves the reader in the middle of. -/
theorem finish_run_of_scan {s : List Char} {ts : List Token} (h : scan s = .ok ts) :
    ∃ last, finish (run .gap s).1 = .ok last ∧ ts = (run .gap s).2 ++ last := by
  unfold scan scanFrom at h
  cases hlast : finish (run .gap s).1 with
  | error e => rw [hlast] at h; cases h
  | ok last =>
      rw [hlast] at h
      cases h
      exact ⟨last, rfl, rfl⟩

/-- **Reading starts anew at a boundary.** -/
theorem scan_append_cons {s : List Char} {ts : List Token} {c : Char} (h : scan s = .ok ts)
    (hc : isBoundary c = true) (rest : List Char) :
    scan (s ++ c :: rest) = (scan (c :: rest)).map (ts ++ ·) := by
  obtain ⟨last, hlast, rfl⟩ := finish_run_of_scan h
  have hstep := step_of_isBoundary hlast hc
  have hstart : step .gap c = start c := rfl
  rw [scan, scanFrom_append, scan, scanFrom, scanFrom, run_cons, run_cons, hstep, hstart]
  cases finish (run (start c).1 rest).1 with
  | error e => rfl
  | ok more => simp [Except.map]

theorem scan_cons_of_isBlank {c : Char} (h : Text.isBlank c = true) (s : List Char) :
    scan (c :: s) = scan s := by
  have hstep : step .gap c = (.gap, []) := by simp [step, start, h]
  rw [scan, scanFrom, run_cons, hstep, scan, scanFrom]
  simp

theorem scan_leftParen_cons (s : List Char) : scan ('(' :: s) = (scan s).map (.leftParen :: ·) := by
  have hstep : step .gap '(' = (.gap, [.leftParen]) := rfl
  rw [scan, scanFrom, run_cons, hstep, scan, scanFrom]
  cases finish (run .gap s).1 <;> rfl

theorem scan_rightParen : scan [')'] = .ok [.rightParen] := rfl

/-! ### Texts put together -/

section Together

variable {s s' : List Char} {ts ts' : List Token}

theorem scan_append_blank (h : scan s = .ok ts) (h' : scan s' = .ok ts') :
    scan (s ++ ' ' :: s') = .ok (ts ++ ts') := by
  rw [scan_append_cons h (by decide), scan_cons_of_isBlank (by decide), h']
  rfl

theorem scan_append_or (h : scan s = .ok ts) (h' : scan s' = .ok ts') :
    scan (s ++ ' ' :: 'O' :: 'R' :: ' ' :: s') = .ok (ts ++ .or :: ts') := by
  have hor : scan ['O', 'R'] = .ok [.or] := rfl
  exact scan_append_blank h (scan_append_blank hor h')

theorem scan_parens (h : scan s = .ok ts) :
    scan ('(' :: s ++ [')']) = .ok (.leftParen :: ts ++ [.rightParen]) := by
  rw [List.cons_append, scan_leftParen_cons, scan_append_cons h (by decide), scan_rightParen]
  rfl

end Together

/-! ### Words -/

theorem run_word {s : List Char} (h : ∀ c ∈ s, isWordChar c = true) (taken : List Char) :
    run (.word taken) s = (.word (s.reverse ++ taken), []) := by
  induction s generalizing taken with
  | nil => rfl
  | cons c rest ih =>
      have hstep : step (.word taken) c = (.word (c :: taken), []) := by
        simp [step, h c (by simp)]
      rw [run_cons, hstep, ih fun c' hc' => h c' (by simp [hc'])]
      simp

theorem start_of_isWordChar {c : Char} (h : isWordChar c = true) : start c = (.word [c], []) := by
  simp only [isWordChar, Bool.and_eq_true, Bool.not_eq_true', bne_iff_ne] at h
  obtain ⟨⟨⟨hblank, hleft⟩, hright⟩, hquote⟩ := h
  simp [start, hblank, hleft, hright, hquote]

theorem run_gap_of_isWordChar {s : List Char} (hne : s ≠ []) (h : ∀ c ∈ s, isWordChar c = true) :
    run .gap s = (.word s.reverse, []) := by
  obtain ⟨c, rest, rfl⟩ := List.exists_cons_of_ne_nil hne
  have hstep : step .gap c = (.word [c], []) := start_of_isWordChar (h c (by simp))
  rw [run_cons, hstep, run_word fun c' hc' => h c' (by simp [hc'])]
  simp

/-- **A word is read as one token.** -/
theorem scan_of_isWordChar {s : List Char} (hne : s ≠ []) (h : ∀ c ∈ s, isWordChar c = true) :
    scan s = .ok [ofWord s] := by
  rw [scan, scanFrom, run_gap_of_isWordChar hne h]
  simp [finish, Except.map]

theorem splitColon_eq_none {s : List Char} (h : ':' ∉ s) : splitColon s = none := by
  induction s with
  | nil => rfl
  | cons c rest ih =>
      obtain ⟨hc, hrest⟩ : ':' ≠ c ∧ ':' ∉ rest := by simpa using h
      simp [splitColon, Ne.symm hc, ih hrest]

theorem splitColon_append {name : List Char} (h : ':' ∉ name) (value : List Char) :
    splitColon (name ++ ':' :: value) = some (name, value) := by
  induction name with
  | nil => rfl
  | cons c rest ih =>
      obtain ⟨hc, hrest⟩ : ':' ≠ c ∧ ':' ∉ rest := by simpa using h
      simp [splitColon, Ne.symm hc, ih hrest]

theorem isNameChar_of_isFieldName {name : List Char} (h : isFieldName name = true) {c : Char}
    (hc : c ∈ name) : (c.isAlpha || c == '_') = true :=
  List.all_eq_true.1 (Bool.and_eq_true_iff.1 h).2 c hc

/-- There is no colon in the name of a field. -/
theorem colon_notMem_of_isFieldName {name : List Char} (h : isFieldName name = true) :
    ':' ∉ name :=
  fun hmem => absurd (isNameChar_of_isFieldName h hmem) (by decide)

/-- The characters of the name of a field are those of a word. -/
theorem isWordChar_of_isFieldName {name : List Char} (h : isFieldName name = true) {c : Char}
    (hc : c ∈ name) : isWordChar c = true := by
  have hends : ('(' :: ')' :: '"' :: Text.blankPoints.map Char.ofNat).all
      (fun d => !(d.isAlpha || d == '_')) = true := by
    decide
  cases hword : isWordChar c with
  | true => rfl
  | false =>
      have hmem : c ∈ '(' :: ')' :: '"' :: Text.blankPoints.map Char.ofNat := by
        simp only [isWordChar, Bool.and_eq_false_iff, Bool.not_eq_false',
          bne_eq_false_iff_eq] at hword
        rcases hword with ((hblank | rfl) | rfl) | rfl
        · have hpoint : c.toNat ∈ Text.blankPoints := List.contains_iff_mem.1 hblank
          have hchar : c ∈ Text.blankPoints.map Char.ofNat :=
            List.mem_map.2 ⟨c.toNat, hpoint, Char.ofNat_toNat c⟩
          simp [hchar]
        all_goals decide
      have hnot := List.all_eq_true.1 hends c hmem
      rw [isNameChar_of_isFieldName h hc] at hnot
      cases hnot

/-- A name, a colon and a value are read as a field term. -/
theorem fieldParts?_append {name : List Char} (h : isFieldName name = true) (value : List Char) :
    fieldParts? (name ++ ':' :: value) = some (name, value) := by
  rw [fieldParts?, splitColon_append (colon_notMem_of_isFieldName h)]
  simp [h]

/-- A word with no colon that is not `OR` is read as it stands. -/
theorem ofWord_of_notMem {s : List Char} (hcolon : ':' ∉ s) (hor : isOr s = false) :
    ofWord s = .word (String.ofList s) := by
  simp [ofWord, fieldParts?, splitColon_eq_none hcolon, hor]

theorem ofWord_append {name : List Char} (h : isFieldName name = true) (value : List Char) :
    ofWord (name ++ ':' :: value) = .field (String.ofList name) (String.ofList value) false := by
  rw [ofWord, fieldParts?_append h]

/-! ### Quotes -/

/-- A character as it is written in quotes. -/
theorem run_quoted_escape (name : Option String) (taken : List Char) (c : Char) :
    run (.quoted name taken) (if c = '"' ∨ c = '\\' then ['\\', c] else [c]) =
      (.quoted name (c :: taken), []) := by
  by_cases h : c = '"' ∨ c = '\\'
  · have hstep : step (.quoted name taken) '\\' = (.escaped name taken, []) := rfl
    rw [if_pos h, run_cons, hstep]
    simp [step, h]
  · obtain ⟨hquote, hslash⟩ := not_or.1 h
    rw [if_neg h]
    simp [step, hquote, hslash]

/-- A text in quotes, from behind the first quote. -/
theorem run_quoted (name : Option String) (s taken : List Char) :
    run (.quoted name taken)
        ((s.flatMap fun c => if c = '"' ∨ c = '\\' then ['\\', c] else [c]) ++ ['"']) =
      (.gap, [ofQuoted name (taken.reverse ++ s)]) := by
  induction s generalizing taken with
  | nil => simp [step]
  | cons c rest ih =>
      rw [List.flatMap_cons, List.append_assoc, run_append, run_quoted_escape, ih]
      simp

theorem run_quoteChars (s : List Char) :
    run .gap (Filter.quoteChars s) = (.gap, [.quoted (String.ofList s)]) := by
  have hstep : step .gap '"' = (.quoted none [], []) := rfl
  rw [Filter.quoteChars, List.cons_append, run_cons, hstep, run_quoted]
  rfl

theorem run_field_quoteChars {name : List Char} (h : isFieldName name = true) (s : List Char) :
    run .gap (name ++ ':' :: Filter.quoteChars s) =
      (.gap, [.field (String.ofList name) (String.ofList s) true]) := by
  have hrun : run .gap (name ++ [':']) = (.word (name ++ [':']).reverse, []) := by
    refine run_gap_of_isWordChar (by simp) fun c hc => ?_
    rcases List.mem_append.1 hc with hc | hc
    · exact isWordChar_of_isFieldName h hc
    · rw [List.mem_singleton.1 hc]
      decide
  -- the quote stands right behind the colon, so it opens the value
  have hopen : openField? (name ++ [':']) = some (String.ofList name) := by
    rw [openField?, fieldParts?_append h []]
  have hstep : step (.word (name ++ [':']).reverse) '"' =
      (.quoted (some (String.ofList name)) [], []) := by
    rw [step, List.reverse_reverse, hopen]
    rfl
  rw [List.append_cons, run_append, hrun, Filter.quoteChars, List.cons_append, run_cons,
    hstep, run_quoted]
  rfl

/-- **What stands between tokens is read by itself,** also where no boundary does. -/
theorem scan_append_of_run {s : List Char} {ts : List Token} (h : run .gap s = (.gap, ts))
    (rest : List Char) : scan (s ++ rest) = (scan rest).map (ts ++ ·) := by
  rw [scan, scanFrom_append, h]
  rfl

theorem scan_of_run {s : List Char} {ts : List Token} (h : run .gap s = (.gap, ts)) :
    scan s = .ok ts := by
  have hscan := scan_append_of_run h []
  rw [List.append_nil] at hscan
  rw [hscan]
  exact congrArg Except.ok (List.append_nil ts)

/-- **A text in quotes is read back.** -/
theorem scan_quoteChars (s : List Char) :
    scan (Filter.quoteChars s) = .ok [.quoted (String.ofList s)] :=
  scan_of_run (run_quoteChars s)

/-- **The value of a field in quotes is read back.** -/
theorem scan_field_quoteChars {name : List Char} (h : isFieldName name = true) (s : List Char) :
    scan (name ++ ':' :: Filter.quoteChars s) =
      .ok [.field (String.ofList name) (String.ofList s) true] :=
  scan_of_run (run_field_quoteChars h s)

/-! ### Texts without tokens -/

theorem scanFrom_cons (m : Mode) (c : Char) (rest : List Char) :
    scanFrom m (c :: rest) = (scanFrom (step m c).1 rest).map ((step m c).2 ++ ·) := by
  simpa using scanFrom_append m [c] rest

/-- In the middle of a token, a character stays in it or completes it. -/
theorem step_of_ne_gap {m : Mode} (h : m ≠ .gap) (c : Char) :
    (step m c).1 ≠ .gap ∨ (step m c).2 ≠ [] := by
  cases m with
  | gap => exact absurd rfl h
  | word taken => grind [step]
  | quoted name taken => grind [step]
  | escaped name taken => grind [step]

/-- In the middle of a token, the rest of the text completes it. -/
theorem ne_nil_of_scanFrom {m : Mode} (hm : m ≠ .gap) {s : List Char} {ts : List Token}
    (h : scanFrom m s = .ok ts) : ts ≠ [] := by
  induction s generalizing m ts with
  | nil =>
      cases m with
      | gap => exact absurd rfl hm
      | word taken => cases h; simp
      | quoted name taken => cases h
      | escaped name taken => cases h
  | cons c rest ih =>
      rw [scanFrom_cons] at h
      obtain ⟨ts', hrest, rfl⟩ := Except.of_map_eq_ok h
      rcases step_of_ne_gap hm c with hmode | hout
      · exact List.append_ne_nil_of_right_ne_nil _ (ih hmode hrest)
      · exact List.append_ne_nil_of_left_ne_nil hout _

/-- **Only a text of blanks has no tokens.** -/
theorem isBlank_of_scan_eq_nil {s : List Char} (h : scan s = .ok []) :
    ∀ c ∈ s, Text.isBlank c = true := by
  induction s with
  | nil => simp
  | cons c rest ih =>
      have hstep : step .gap c = start c := rfl
      by_cases hc : Text.isBlank c = true
      · rw [scan_cons_of_isBlank hc] at h
        intro c' hc'
        rcases List.mem_cons.1 hc' with rfl | hc'
        · exact hc
        · exact ih h c' hc'
      · rw [scan, scanFrom_cons] at h
        obtain ⟨ts, hrest, hnil⟩ := Except.of_map_eq_ok h
        obtain ⟨hout, rfl⟩ := List.append_eq_nil_iff.1 hnil
        have hmode : (step .gap c).1 ≠ .gap := by
          rw [hstep, start] at hout ⊢
          grind
        exact absurd rfl (ne_nil_of_scanFrom hmode hrest)

end Coffer.Token
