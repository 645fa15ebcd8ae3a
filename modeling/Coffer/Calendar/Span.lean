/-
**Spans: dates written to the year, the month or the day.**

A span is what someone writes who means a whole year (`2024`), a whole month (`2024-03`) or one day
(`2024-03-15`).

Main definitions:

* `Coffer.Span`, with its first day `start` and its last day `Coffer.Span.last`;
* `Coffer.Span.holds` — whether a date lies in the span;
* `Coffer.Span.chars`, `Coffer.Span.read?` — writing and reading.
-/

import Coffer.Calendar.DateText
import Coffer.Number.Reading

set_option autoImplicit false

namespace Coffer

/-- How much of a date is written. -/
inductive Precision where
  | year
  | month
  | day
  deriving DecidableEq, Repr

/-- A year, a month or a day, given by its first day. -/
structure Span where
  start : Date
  precision : Precision
  deriving DecidableEq

namespace Span

/-- The span of one day. -/
def ofDay (d : Date) : Span := ⟨d, .day⟩

/-- The last day of the span. -/
def last (s : Span) : Date :=
  match s.precision with
  | .year => s.start.lastOfYear
  | .month => s.start.lastOfMonth
  | .day => s.start

/-- Whether a date lies in the span. -/
def holds (s : Span) (d : Date) : Bool := decide (s.start ≤ d) && decide (d ≤ s.last)

@[simp] theorem last_ofDay (d : Date) : (ofDay d).last = d := rfl

/-- A date lies in a span if it is neither before its first day nor after its last. -/
theorem holds_eq_true_iff {s : Span} {d : Date} :
    s.holds d = true ↔ s.start ≤ d ∧ d ≤ s.last := by
  simp [holds]

/-- The text of a span, to its precision. -/
def chars (s : Span) : List Char :=
  match s.precision with
  | .year => s.start.yearText
  | .month => s.start.monthText
  | .day => s.start.isoChars

/-- The text of a span. -/
def text (s : Span) : String := String.ofList s.chars

/-! ### Reading -/

/-- One or two digits and what follows them: the end of the text, or a hyphen and more. -/
def pair? (s : List Char) : Option (Nat × Option (List Char)) :=
  let ds := s.takeWhile Char.isDigit
  if ds.length = 1 ∨ ds.length = 2 then
    match s.dropWhile Char.isDigit with
    | [] => some (Nat.ofDigitChars 10 ds 0, none)
    | '-' :: rest => some (Nat.ofDigitChars 10 ds 0, some rest)
    | _ :: _ => none
  else none

/-- The numbers of a span: a year of four digits, then perhaps a month, then perhaps a day. -/
def fields? (s : List Char) : Option (Nat × Option Nat × Option Nat) :=
  let ds := s.takeWhile Char.isDigit
  let year := Nat.ofDigitChars 10 ds 0
  if ds.length = 4 then
    match s.dropWhile Char.isDigit with
    | [] => some (year, none, none)
    | '-' :: rest =>
      match pair? rest with
      | some (month, none) => some (year, some month, none)
      | some (month, some more) =>
        match pair? more with
        | some (day, none) => some (year, some month, some day)
        | _ => none
      | none => none
    | _ :: _ => none
  else none

/-- **Reads a span.** -/
def read? (s : List Char) : Option Span :=
  match fields? s with
  | some (y, none, _) => (Date.of? y 1 1).map fun d => ⟨d, .year⟩
  | some (y, some m, none) => (Date.of? y m 1).map fun d => ⟨d, .month⟩
  | some (y, some m, some n) => (Date.of? y m n).map fun d => ⟨d, .day⟩
  | none => none

end Span

end Coffer
