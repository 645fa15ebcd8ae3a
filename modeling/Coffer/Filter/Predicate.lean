/-
**Reading predicates: `field:value`, `field:>value` and `field:low..high`.**

The value of a term is read in three steps: a comparison sign comes off the front, then a range is
split at its first two dots in a row, and then the bounds are read as dates or amounts.  A value
that was quoted has neither sign nor range.

Main definitions:

* `Coffer.Predicate.splitSign`, `Coffer.Predicate.splitRange?` — the first two steps;
* `Coffer.Predicate.amount`, `Coffer.Predicate.span` — reading a bound;
* `Coffer.Predicate.read` — reading a term.
-/

import Coffer.Filter.Basic
import Coffer.Filter.Error
import Coffer.Number.Reading
import Coffer.Number.Written

set_option autoImplicit false

namespace Coffer.Predicate

/-- Takes a comparison sign off the front. -/
def splitSign : List Char → Comparison × List Char
  | '>' :: '=' :: rest => (.atLeast, rest)
  | '<' :: '=' :: rest => (.atMost, rest)
  | '>' :: rest => (.greater, rest)
  | '<' :: rest => (.less, rest)
  | rest => (.equal, rest)

/-- Splits a range at its first two dots in a row. -/
def splitRange? : List Char → Option (List Char × List Char)
  | [] => none
  | '.' :: '.' :: rest => some ([], rest)
  | c :: rest => (splitRange? rest).map fun p => (c :: p.1, p.2)

/-- Reads an amount: a sign and a currency sign may stand in front of a decimal. -/
def amount? (s : List Char) : Option Float :=
  let (negative, unsigned) := Reading.sign s
  let digits := match unsigned with
    | '$' :: rest => rest
    | rest => rest
  match Reading.decimal? negative digits with
  -- so many digits that the value is infinite make no amount
  | some x => if Binary64.magnitude x < Binary64.infinity then some x else none
  | none => none

/-- Reads an amount, or names it as the cause of the failure. -/
def amount (s : List Char) : Except FilterError Float :=
  match amount? s with
  | some x => .ok x
  | none => .error (.invalidAmount (String.ofList s))

/-- Reads a span, or names it as the cause of the failure. -/
def span (s : List Char) : Except FilterError Span :=
  match Span.read? s with
  | some x => .ok x
  | none => .error (.invalidDate (String.ofList s))

/-- The text of a range. -/
def rangeText (low high : List Char) : String := String.ofList (low ++ '.' :: '.' :: high)

/-- Reads a range of dates; it must hold a day. -/
def dateRange (low high : List Char) : Except FilterError Value := do
  let lo ← span low
  let hi ← span high
  -- the bounds may overlap, as in `2024..2024-03`, as long as a day lies between them
  if hi.last < lo.start then .error (.invertedRange (rangeText lo.chars hi.chars))
  else .ok (.dateRange lo hi)

/-- Reads a range of amounts; its bounds must be in order. -/
def amountRange (low high : List Char) : Except FilterError Value := do
  let lo ← amount low
  let hi ← amount high
  if hi < lo then
    .error (.invertedRange (rangeText (Binary64.plainChars lo) (Binary64.plainChars hi)))
  else .ok (.amountRange lo hi)

/-- Reads the value of an ordered field, perhaps a range. -/
def orderedValue (f : Field) (c : Comparison) (s : List Char)
    (range : Option (List Char × List Char)) :
    Except FilterError Value :=
  match range with
  | some (low, high) =>
    if c ≠ .equal then .error (.unsupportedOperator f.name (c.sign ++ ".."))
    else if f = .date then dateRange low high
    else amountRange low high
  | none =>
    if f = .date then (span s).map .date else (amount s).map .amount

/-- Reads the value of a known field. -/
def ofField (f : Field) (raw : List Char) (isQuoted : Bool) : Except FilterError Predicate :=
  let (c, s) := if isQuoted then (.equal, raw) else splitSign raw
  -- a lone sign is as empty as no value at all
  if s.isEmpty then .error (.emptyValue f.name)
  else if f.isOrdered then
    (orderedValue f c s (if isQuoted then none else splitRange? s)).map fun v => ⟨f, c, v⟩
  else if c ≠ .equal then .error (.unsupportedOperator f.name c.sign)
  else .ok ⟨f, c, .text (String.ofList s)⟩

/-- **Reads a term `name:value`.** -/
def read (name value : String) (isQuoted : Bool) : Except FilterError Predicate :=
  match Field.ofName? name with
  | some f => ofField f value.toList isQuoted
  | none => .error (.unknownField name)

end Coffer.Predicate
