/-
**The terms of a filter text.**

The language of filters can write a predicate if its field, its comparison and its value belong
together: texts are not empty and are not compared by order, dates have a year of four digits,
amounts are finite, and ranges have their bounds in order.  These are exactly the predicates that
reading a term gives, and each of them is read back from its text.

Main definitions: `Coffer.Predicate.IsWritten`, `Coffer.Predicate.IsReadBack`.

Main results:

* `Coffer.Predicate.isWritten_of_read` — what is read can be written;
* `Coffer.Predicate.IsWritten.isReadBack` — **what is written is read back;**
* `Coffer.Filter.scan_textChars` — so are free texts.
-/

import Coffer.Filter.Predicate
import Coffer.Proofs.Calendar.SpanText
import Coffer.Proofs.Except
import Coffer.Proofs.Filter.Tokens
import Coffer.Proofs.Number.PlainText

set_option autoImplicit false

namespace Coffer

open Binary64 (plainChars magnitude infinity)

namespace Predicate

/-! ### Predicates that can be written -/

/-- **Predicates that can be written.** -/
inductive IsWritten : Predicate → Prop
  | text {f : Field} {s : String} : f.isOrdered = false → s ≠ "" → IsWritten ⟨f, .equal, .text s⟩
  | date {c : Comparison} {s : Span} : s.IsWritten → IsWritten ⟨.date, c, .date s⟩
  | amount {c : Comparison} {x : Float} : magnitude x < infinity → IsWritten ⟨.amount, c, .amount x⟩
  | dateRange {low high : Span} : low.IsWritten → high.IsWritten → ¬ high.last < low.start →
      IsWritten ⟨.date, .equal, .dateRange low high⟩
  | amountRange {low high : Float} : magnitude low < infinity → magnitude high < infinity →
      ¬ high < low → IsWritten ⟨.amount, .equal, .amountRange low high⟩

/-! ### What is read can be written -/

theorem isWritten_of_span {s : List Char} {d : Span} (h : span s = .ok d) : d.IsWritten := by
  unfold span at h
  split at h
  · next hread =>
      cases h
      exact Span.isWritten_of_read? hread
  · cases h

theorem finite_of_amount {s : List Char} {x : Float} (h : amount s = .ok x) :
    magnitude x < infinity := by
  unfold amount amount? at h
  grind

theorem exists_of_dateRange {low high : List Char} {v : Value} (h : dateRange low high = .ok v) :
    ∃ lo hi, v = .dateRange lo hi ∧ lo.IsWritten ∧ hi.IsWritten ∧ ¬ hi.last < lo.start := by
  obtain ⟨lo, hlo, h⟩ := Except.of_bind_eq_ok h
  obtain ⟨hi, hhi, h⟩ := Except.of_bind_eq_ok h
  split at h
  · cases h
  · next hlt =>
      cases h
      exact ⟨lo, hi, rfl, isWritten_of_span hlo, isWritten_of_span hhi, hlt⟩

theorem exists_of_amountRange {low high : List Char} {v : Value}
    (h : amountRange low high = .ok v) :
    ∃ lo hi, v = .amountRange lo hi ∧ magnitude lo < infinity ∧ magnitude hi < infinity ∧
      ¬ hi < lo := by
  obtain ⟨lo, hlo, h⟩ := Except.of_bind_eq_ok h
  obtain ⟨hi, hhi, h⟩ := Except.of_bind_eq_ok h
  split at h
  · cases h
  · next hlt =>
      cases h
      exact ⟨lo, hi, rfl, finite_of_amount hlo, finite_of_amount hhi, hlt⟩

/-- The value of an ordered field goes with the field and the comparison. -/
theorem isWritten_of_orderedValue {f : Field} {c : Comparison} {s : List Char}
    {range : Option (List Char × List Char)} {v : Value} (hf : f.isOrdered = true)
    (h : orderedValue f c s range = .ok v) : IsWritten ⟨f, c, v⟩ := by
  obtain rfl | rfl : f = .date ∨ f = .amount := by cases f <;> simp_all [Field.isOrdered]
  all_goals
    unfold orderedValue at h
    split at h
  · split at h
    · cases h
    · next hc =>
        obtain ⟨lo, hi, rfl, hlo, hhi, hlt⟩ := exists_of_dateRange h
        rw [Decidable.not_not.1 hc]
        exact .dateRange hlo hhi hlt
  · obtain ⟨d, hd, rfl⟩ := Except.of_map_eq_ok h
    exact .date (isWritten_of_span hd)
  · split at h
    · cases h
    · next hc =>
        obtain ⟨lo, hi, rfl, hlo, hhi, hlt⟩ := exists_of_amountRange h
        rw [Decidable.not_not.1 hc]
        exact .amountRange hlo hhi hlt
  · obtain ⟨x, hx, rfl⟩ := Except.of_map_eq_ok h
    exact .amount (finite_of_amount hx)

theorem isWritten_of_ofField {f : Field} {raw : List Char} {isQuoted : Bool} {p : Predicate}
    (h : ofField f raw isQuoted = .ok p) : p.IsWritten := by
  unfold ofField at h
  -- the comparison and the rest of the value play no part beyond what is tested of them
  generalize (if isQuoted then (Comparison.equal, raw) else splitSign raw) = parts at h
  obtain ⟨c, s⟩ := parts
  dsimp only at h
  split at h
  · cases h
  · next hs =>
      split at h
      · next hf =>
          obtain ⟨v, hv, rfl⟩ := Except.of_map_eq_ok h
          exact isWritten_of_orderedValue hf hv
      · next hf =>
          split at h
          · cases h
          · next hc =>
              cases h
              rw [Decidable.not_not.1 hc]
              refine .text (by simpa using hf) fun hempty => hs ?_
              simpa using congrArg String.toList hempty

/-- **What is read can be written.** -/
theorem isWritten_of_read {name value : String} {isQuoted : Bool} {p : Predicate}
    (h : read name value isQuoted = .ok p) : p.IsWritten := by
  unfold read at h
  split at h
  · exact isWritten_of_ofField h
  · cases h

/-! ### Digits in words and ranges -/

theorem isWordChar_of_isDigit {c : Char} (h : c.isDigit = true) : Token.isWordChar c = true := by
  have hblank : Text.isBlank c = false := by
    simp only [Char.isDigit, Bool.and_eq_true, decide_eq_true_eq] at h
    have hlow : 48 ≤ c.toNat := h.1
    have hhigh : c.toNat ≤ 57 := h.2
    simp only [Text.isBlank, Text.blankPoints, List.contains_eq_mem, decide_eq_false_iff_not,
      List.mem_cons, List.not_mem_nil, or_false]
    omega
  have hleft : c ≠ '(' := by rintro rfl; exact absurd h (by decide)
  have hright : c ≠ ')' := by rintro rfl; exact absurd h (by decide)
  have hquote : c ≠ '"' := by rintro rfl; exact absurd h (by decide)
  simp [Token.isWordChar, hblank, hleft, hright, hquote]

theorem dot_ne_of_isDigit {c : Char} (h : c.isDigit = true) : c ≠ '.' := by
  rintro rfl
  exact absurd h (by decide)

/-- A text that is passed over in search of a range, whatever stands behind it. -/
def HasNoRange (s : List Char) : Prop :=
  ∀ t, splitRange? (s ++ t) = (splitRange? t).map fun p => (s ++ p.1, p.2)

namespace HasNoRange

variable {s s' : List Char}

theorem of_notMem (h : '.' ∉ s) : HasNoRange s := by
  intro t
  induction s with
  | nil => simp
  | cons c rest ih =>
      obtain ⟨hc, hrest⟩ : '.' ≠ c ∧ '.' ∉ rest := by simpa using h
      rw [List.cons_append, splitRange?, ih hrest]
      · cases splitRange? t <;> rfl
      · intro _ hdot
        exact absurd hdot.symm hc

theorem of_isDigit (h : ∀ c ∈ s, c.isDigit = true) : HasNoRange s :=
  .of_notMem fun hdot => dot_ne_of_isDigit (h '.' hdot) rfl

theorem append (h : HasNoRange s) (h' : HasNoRange s') : HasNoRange (s ++ s') := by
  intro t
  rw [List.append_assoc, h, h', Option.map_map]
  cases splitRange? t <;> simp

theorem dot_cons {c : Char} (hc : c ≠ '.') (h : HasNoRange (c :: s)) :
    HasNoRange ('.' :: c :: s) := by
  intro t
  rw [List.cons_append, List.cons_append, splitRange?]
  · rw [← List.cons_append, h, Option.map_map]
    cases splitRange? t <;> simp
  · rintro _ - hdot
    cases hdot
    exact hc rfl

/-- A point with digits behind it is no range. -/
theorem append_point (h : HasNoRange s) (hne : s' ≠ []) (hs' : ∀ c ∈ s', c.isDigit = true) :
    HasNoRange (s ++ '.' :: s') := by
  obtain ⟨c, rest, rfl⟩ := List.exists_cons_of_ne_nil hne
  exact h.append (.dot_cons (dot_ne_of_isDigit (hs' c (by simp))) (.of_isDigit hs'))

theorem splitRange?_eq_none (h : HasNoRange s) : splitRange? s = none := by
  simpa [splitRange?] using h []

theorem splitRange?_append_dots (h : HasNoRange s) (t : List Char) :
    splitRange? (s ++ '.' :: '.' :: t) = some (s, t) := by
  simpa [splitRange?] using h ('.' :: '.' :: t)

end HasNoRange

/-! ### The texts of dates and amounts -/

/-- What the texts of dates and amounts have in common: they start with a digit or a minus sign, and
what follows goes on with the word and is no range. -/
structure IsBoundText (s : List Char) : Prop where
  starts : ∃ c rest, s = c :: rest ∧ (c.isDigit = true ∨ c = '-')
  word : ∀ c ∈ s, Token.isWordChar c = true
  noRange : HasNoRange s

/-- Digits and hyphens are a text of this kind. -/
theorem isBoundText_of_isDigit_or {s : List Char} (hne : s ≠ [])
    (h : ∀ c ∈ s, c.isDigit = true ∨ c = '-') : IsBoundText s where
  starts := by
    obtain ⟨c, rest, rfl⟩ := List.exists_cons_of_ne_nil hne
    exact ⟨c, rest, rfl, h c (by simp)⟩
  word := by
    intro c hc
    rcases h c hc with hdigit | rfl
    · exact isWordChar_of_isDigit hdigit
    · decide
  noRange := by
    refine .of_notMem fun hdot => ?_
    rcases h '.' hdot with hdigit | hhyphen
    · exact dot_ne_of_isDigit hdigit rfl
    · exact absurd hhyphen (by decide)

theorem isBoundText_chars {d : Span} (h : d.IsWritten) : IsBoundText d.chars := by
  obtain ⟨c, rest, hc, -⟩ := Span.exists_chars_eq_cons h
  exact isBoundText_of_isDigit_or (by simp [hc]) fun _ hmem => Span.isDigit_or_of_mem_chars h hmem

theorem isWordChar_of_mem_positional {g : Nat} {c : Char} (hc : c ∈ Binary64.positional g) :
    Token.isWordChar c = true := by
  have hmem : c ∈ Binary64.wholes g ∨ c = '.' ∨ c ∈ Binary64.places g := by
    unfold Binary64.positional at hc
    cases hps : Binary64.places g with
    | nil => rw [hps] at hc; exact .inl hc
    | cons d ps => rw [hps] at hc; simpa using hc
  rcases hmem with hw | rfl | hp
  · exact isWordChar_of_isDigit (Binary64.isDigit_of_mem_wholes hw)
  · decide
  · exact isWordChar_of_isDigit (Binary64.isDigit_of_mem_places hp)

theorem hasNoRange_positional (g : Nat) : HasNoRange (Binary64.positional g) := by
  have hwholes : HasNoRange (Binary64.wholes g) := .of_isDigit fun _ hc =>
    Binary64.isDigit_of_mem_wholes hc
  have hplaces : ∀ c ∈ Binary64.places g, c.isDigit = true := fun _ hc =>
    Binary64.isDigit_of_mem_places hc
  unfold Binary64.positional
  cases hps : Binary64.places g with
  | nil => exact hwholes
  | cons d ps =>
      rw [hps] at hplaces
      exact hwholes.append_point (List.cons_ne_nil d ps) hplaces

/-- A minus sign can stand in front of a decimal. -/
theorem isBoundText_signed (negative : Bool) (g : Nat) :
    IsBoundText (Binary64.signed negative (Binary64.positional g)) := by
  obtain ⟨c, rest, hc, hdigit⟩ := positional_eq_cons g
  have hword : ∀ c ∈ Binary64.positional g, Token.isWordChar c = true :=
    fun _ hc => isWordChar_of_mem_positional hc
  cases negative with
  | false => exact ⟨⟨c, rest, hc, .inl hdigit⟩, hword, hasNoRange_positional g⟩
  | true =>
      refine ⟨⟨'-', Binary64.positional g, rfl, .inr rfl⟩, fun c' hc' => ?_, ?_⟩
      · rcases List.mem_cons.1 hc' with rfl | hc'
        · decide
        · exact hword c' hc'
      · have hminus : HasNoRange ['-'] := .of_notMem (by decide)
        exact hminus.append (hasNoRange_positional g)

theorem isBoundText_plainChars {x : Float} (h : magnitude x < infinity) :
    IsBoundText (plainChars x) := by
  rw [Binary64.plainChars, if_pos h]
  exact isBoundText_signed _ _

theorem amount_plainChars {x : Float} (h : magnitude x < infinity) :
    amount (plainChars x) = .ok x := by
  rw [amount, amount?_plainChars h]

theorem span_chars {d : Span} (h : d.IsWritten) : span d.chars = .ok d := by
  rw [span, Span.read?_chars h]

/-! ### Terms are read back -/

theorem ofName?_name (f : Field) : Field.ofName? f.name = some f := by
  cases f <;> decide

theorem isFieldName_name (f : Field) : Token.isFieldName f.name.toList = true := by
  cases f <;> decide

theorem isWordChar_of_mem_sign {c : Comparison} {a : Char} (h : a ∈ c.sign.toList) :
    Token.isWordChar a = true := by
  have hall : c.sign.toList.all Token.isWordChar = true := by cases c <;> decide
  exact List.all_eq_true.mp hall a h

/-- The term of a field and a value that is one word. -/
theorem scan_name_append (f : Field) {s : List Char} (h : ∀ c ∈ s, Token.isWordChar c = true) :
    Token.scan (f.name.toList ++ ':' :: s) = .ok [.field f.name (String.ofList s) false] := by
  have hword : ∀ c ∈ f.name.toList ++ ':' :: s, Token.isWordChar c = true := by
    intro c hc
    rcases List.mem_append.1 hc with hc | hc
    · exact Token.isWordChar_of_isFieldName (isFieldName_name f) hc
    · rcases List.mem_cons.1 hc with rfl | hc
      · decide
      · exact h c hc
  rw [Token.scan_of_isWordChar (by simp) hword, Token.ofWord_append (isFieldName_name f),
    String.ofList_toList]

/-- The sign of a comparison comes off the front of a date, an amount or a range. -/
theorem splitSign_append (c : Comparison) {s : List Char} (h : IsBoundText s) (t : List Char) :
    splitSign (c.sign.toList ++ (s ++ t)) = (c, s ++ t) := by
  obtain ⟨a, rest, rfl, ha⟩ := h.starts
  have hgreater : a ≠ '>' := by rintro rfl; exact absurd ha (by decide)
  have hless : a ≠ '<' := by rintro rfl; exact absurd ha (by decide)
  have hequal : a ≠ '=' := by rintro rfl; exact absurd ha (by decide)
  cases c <;> simp [Comparison.sign, splitSign, hgreater, hless, hequal]

/-- Reading the value of an ordered field, from behind the sign of the comparison. -/
theorem read_ordered {f : Field} (hf : f.isOrdered = true) (c : Comparison) {s : List Char}
    (h : IsBoundText s) (t : List Char) :
    read f.name (String.ofList (c.sign.toList ++ (s ++ t))) false =
      (orderedValue f c (s ++ t) (splitRange? (s ++ t))).map fun v => ⟨f, c, v⟩ := by
  have hne : (s ++ t).isEmpty = false := by
    obtain ⟨a, rest, rfl, -⟩ := h.starts
    rfl
  rw [read, ofName?_name]
  simp [ofField, splitSign_append c h t, hne, hf]

/-- A date or an amount does not start with the sign of a comparison. -/
theorem IsBoundText.startsWithSign {s : List Char} (h : IsBoundText s) :
    Filter.startsWithSign s = false := by
  obtain ⟨c, rest, rfl, hc⟩ := h.starts
  have hgreater : c ≠ '>' := by rintro rfl; exact absurd hc (by decide)
  have hless : c ≠ '<' := by rintro rfl; exact absurd hc (by decide)
  simp [Filter.startsWithSign, hgreater, hless]

/-- Nothing comes off the front of a value that does not start with a sign. -/
theorem splitSign_of_startsWithSign {s : List Char} (h : Filter.startsWithSign s = false) :
    splitSign s = (.equal, s) := by
  cases s with
  | nil => rfl
  | cons c rest =>
      obtain ⟨hgreater, hless⟩ : c ≠ '>' ∧ c ≠ '<' := by simpa [Filter.startsWithSign] using h
      simp [splitSign, hgreater, hless]

/-- Reading the value of an ordered field that does not start with a sign. -/
theorem read_ordered_plain {f : Field} (hf : f.isOrdered = true) {s : List Char} (hs : s ≠ [])
    (hsign : Filter.startsWithSign s = false) :
    read f.name (String.ofList s) false =
      (orderedValue f .equal s (splitRange? s)).map fun v => ⟨f, .equal, v⟩ := by
  rw [read, ofName?_name]
  simp [ofField, splitSign_of_startsWithSign hsign, hs, hf]

/-- Reading the value of a text field as it stands in quotes. -/
theorem read_quoted {f : Field} (hf : f.isOrdered = false) {s : List Char} (hs : s ≠ []) :
    read f.name (String.ofList s) true = .ok ⟨f, .equal, .text (String.ofList s)⟩ := by
  rw [read, ofName?_name]
  simp [ofField, hf, hs]

/-- Reading the value of a text field that does not start with a sign. -/
theorem read_plain {f : Field} (hf : f.isOrdered = false) {s : List Char} (hs : s ≠ [])
    (hsign : Filter.startsWithSign s = false) :
    read f.name (String.ofList s) false = .ok ⟨f, .equal, .text (String.ofList s)⟩ := by
  rw [read, ofName?_name]
  simp [ofField, splitSign_of_startsWithSign hsign, hf, hs]

/-- A text that needs no quotes is a word, and not the word `OR`. -/
theorem isWordChar_of_not_needsQuotes {s : List Char} (h : Filter.needsQuotes s = false) :
    s ≠ [] ∧ (∀ c ∈ s, Token.isWordChar c = true) ∧ Token.isOr s = false := by
  simp only [Filter.needsQuotes, Bool.or_eq_false_iff, List.any_eq_false] at h
  obtain ⟨⟨hempty, hreserved⟩, hor⟩ := h
  refine ⟨by simpa using hempty, fun c hc => ?_, hor⟩
  have hc := hreserved c hc
  simp only [Filter.isReserved, Bool.or_eq_true, beq_iff_eq, not_or] at hc
  obtain ⟨⟨⟨⟨hblank, hquote⟩, hleft⟩, hright⟩, -⟩ := hc
  simp [Token.isWordChar, hblank, hquote, hleft, hright]

/-- A term of two bounds is a word. -/
theorem isWordChar_of_mem_range {s t : List Char} (hs : IsBoundText s) (ht : IsBoundText t) :
    ∀ c ∈ s ++ '.' :: '.' :: t, Token.isWordChar c = true := by
  intro c hc
  simp only [List.mem_append, List.mem_cons] at hc
  rcases hc with hc | rfl | rfl | hc
  · exact hs.word c hc
  · decide
  · decide
  · exact ht.word c hc

/-- The term of an ordered field is one token. -/
theorem scan_ordered (f : Field) (c : Comparison) {s : List Char}
    (h : ∀ a ∈ s, Token.isWordChar a = true) :
    Token.scan (f.name.toList ++ ':' :: (c.sign.toList ++ s)) =
      .ok [.field f.name (String.ofList (c.sign.toList ++ s)) false] := by
  refine scan_name_append f fun a ha => ?_
  rcases List.mem_append.1 ha with ha | ha
  · exact isWordChar_of_mem_sign ha
  · exact h a ha

/-- The text of a predicate is one token, and the predicate is read back from it. -/
def IsReadBack (p : Predicate) : Prop :=
  ∃ name value isQuoted, Token.scan p.chars = .ok [.field name value isQuoted] ∧
    read name value isQuoted = .ok p

/-- Texts are read back, in quotes or as they are. -/
theorem isReadBack_text {f : Field} {s : String} (hf : f.isOrdered = false) (hs : s ≠ "") :
    IsReadBack ⟨f, .equal, .text s⟩ := by
  have hne : s.toList ≠ [] := fun hnil => hs (String.toList_eq_nil_iff.1 hnil)
  by_cases hq : (Filter.needsQuotes s.toList || Filter.startsWithSign s.toList) = true
  · refine ⟨f.name, s, true, ?_, ?_⟩
    · have hscan := Token.scan_field_quoteChars (isFieldName_name f) s.toList
      rw [String.ofList_toList, String.ofList_toList] at hscan
      simpa [chars, Comparison.sign, Value.chars, Filter.valueChars, hq] using hscan
    · have hread := read_quoted hf hne
      rwa [String.ofList_toList] at hread
  · obtain ⟨hneeds, hsign⟩ := Bool.or_eq_false_iff.1 (Bool.not_eq_true _ ▸ hq)
    obtain ⟨-, hword, -⟩ := isWordChar_of_not_needsQuotes hneeds
    refine ⟨f.name, s, false, ?_, ?_⟩
    · have hscan := scan_name_append f hword
      rw [String.ofList_toList] at hscan
      simpa [chars, Comparison.sign, Value.chars, Filter.valueChars, hq] using hscan
    · have hread := read_plain hf hne hsign
      rwa [String.ofList_toList] at hread

/-- A date or an amount is read back behind the sign of its comparison. -/
theorem isReadBack_bound {f : Field} {c : Comparison} {v : Value} (hf : f.isOrdered = true)
    (h : IsBoundText v.chars) (hv : orderedValue f c v.chars none = .ok v) :
    IsReadBack ⟨f, c, v⟩ := by
  refine ⟨_, _, _, scan_ordered f c h.word, ?_⟩
  have hread := read_ordered hf c h []
  rw [List.append_nil, h.noRange.splitRange?_eq_none, hv] at hread
  exact hread

/-- A range is read back from its bounds. -/
theorem isReadBack_range {f : Field} {v : Value} {s t : List Char} (hf : f.isOrdered = true)
    (hs : IsBoundText s) (ht : IsBoundText t) (hchars : v.chars = s ++ '.' :: '.' :: t)
    (hv : orderedValue f .equal v.chars (some (s, t)) = .ok v) : IsReadBack ⟨f, .equal, v⟩ := by
  rw [hchars] at hv
  refine ⟨f.name, String.ofList (Comparison.equal.sign.toList ++ v.chars), false, ?_, ?_⟩
  · refine scan_ordered f .equal (s := v.chars) ?_
    rw [hchars]
    exact isWordChar_of_mem_range hs ht
  · rw [hchars, read_ordered hf .equal hs, hs.noRange.splitRange?_append_dots, hv]
    rfl

/-- **A predicate that can be written is read back.** -/
theorem IsWritten.isReadBack {p : Predicate} (h : p.IsWritten) : IsReadBack p := by
  cases h with
  | text hf hs => exact isReadBack_text hf hs
  | date hd =>
      refine isReadBack_bound rfl (isBoundText_chars hd) ?_
      simp [orderedValue, Value.chars, span_chars hd, Except.map]
  | amount hx =>
      refine isReadBack_bound rfl (isBoundText_plainChars hx) ?_
      simp [orderedValue, Value.chars, amount_plainChars hx, Except.map]
  | dateRange hlow hhigh hle =>
      refine isReadBack_range rfl (isBoundText_chars hlow) (isBoundText_chars hhigh) rfl ?_
      simp [orderedValue, Predicate.dateRange, span_chars hlow, span_chars hhigh, hle, bind,
        Except.bind]
  | amountRange hlow hhigh hle =>
      have hl := isBoundText_plainChars hlow
      refine isReadBack_range rfl hl (isBoundText_plainChars hhigh) rfl ?_
      simp [orderedValue, Predicate.amountRange, amount_plainChars hlow, amount_plainChars hhigh,
        hle, bind, Except.bind]

end Predicate

namespace Filter

/-- **A free text is read back.** -/
theorem scan_textChars (s : List Char) :
    ∃ t, Token.scan (textChars s) = .ok [t] ∧
      (t = .word (String.ofList s) ∨ t = .quoted (String.ofList s)) := by
  unfold textChars
  split
  · exact ⟨_, Token.scan_quoteChars s, .inr rfl⟩
  · next hq =>
      obtain ⟨hneeds, hcolon⟩ := Bool.or_eq_false_iff.1 (Bool.not_eq_true _ ▸ hq)
      obtain ⟨hne, hword, hor⟩ := Predicate.isWordChar_of_not_needsQuotes hneeds
      refine ⟨_, Token.scan_of_isWordChar hne hword, .inl (Token.ofWord_of_notMem ?_ hor)⟩
      simpa using hcolon

end Filter

end Coffer
