/-
**Which transactions a filter selects.**

Texts are compared in lower case.  A description matches a text that occurs in it; categories,
accounts and tags have to be the text.  Dates are compared with the first and last day of a span,
and an amount equals a value if the two differ by less than half a cent.

Main definitions: `Coffer.Predicate.selects`, `Coffer.Filter.selects`, `Coffer.Filter.selectsBy`.

Main results: `Coffer.Filter.allSelect_eq`, `Coffer.Filter.anySelects_eq` — the parts of a filter
are combined by `List.all` and `List.any`.
-/

import Coffer.Filter.Basic
import Coffer.Ledger.Catalog

set_option autoImplicit false

namespace Coffer

/-- Two amounts that differ by less than this are equal to a filter. -/
def amountTolerance : Float := 0.005

/-- Whether a date stands in a relation to a span. -/
def Comparison.testDate (c : Comparison) (s : Span) (d : Date) : Bool :=
  match c with
  | .equal => s.holds d
  | .greater => decide (s.last < d)
  | .atLeast => decide (s.start ≤ d)
  | .less => decide (d < s.start)
  | .atMost => decide (d ≤ s.last)

/-- Whether an amount stands in a relation to a value. -/
def Comparison.testAmount (c : Comparison) (value x : Float) : Bool :=
  match c with
  | .equal => decide ((x - value).abs < amountTolerance)
  | .greater => decide (value < x)
  | .atLeast => decide (value ≤ x)
  | .less => decide (x < value)
  | .atMost => decide (x ≤ value)

/-- Whether a predicate selects a transaction. A value of the wrong kind for its field never
does. -/
def Predicate.selects (p : Predicate) (v : View) : Bool :=
  match p.field, p.value with
  | .description, .text s =>
    Text.holdsLower (Text.lowercaseChars s.toList) v.transaction.description
  | .category, .text s => v.category.any fun name => Text.sameLetters name s
  | .account, .text s => v.account.any fun name => Text.sameLetters name s
  | .tag, .text s => v.tags.any fun t => Text.sameLetters t.name s
  | .date, .date span => p.comparison.testDate span v.transaction.date
  | .date, .dateRange low high =>
    decide (low.start ≤ v.transaction.date) && decide (v.transaction.date ≤ high.last)
  | .amount, .amount x => p.comparison.testAmount x v.transaction.amount
  | .amount, .amountRange low high =>
    decide (low ≤ v.transaction.amount) && decide (v.transaction.amount ≤ high)
  | _, _ => false

namespace Filter

/-- Whether a text in lower case occurs in something written about a transaction. -/
def metadataHolds (needle : List Char) (v : View) : Bool :=
  Text.holdsLower needle v.transaction.description
    || v.category.any (Text.holdsLower needle)
    || v.tags.any (fun t => Text.holdsLower needle t.name)
    || v.transaction.dateRaw.any (Text.holdsLower needle)
    -- the text of a date has no letters and is its own lower case
    || Text.occurs needle v.transaction.date.isoChars

/-- Whether a free text is found in a transaction. -/
def findsText (s : String) (scope : TextScope) (v : View) : Bool :=
  let needle := Text.lowercaseChars s.toList
  match scope with
  | .description => Text.holdsLower needle v.transaction.description
  | .metadata => metadataHolds needle v

mutual

/-- **Whether a filter selects a transaction.** -/
def selects : Filter → View → Bool
  | .field p, v => p.selects v
  | .all parts, v => allSelect parts v
  | .any parts, v => anySelects parts v
  | .text s scope, v => findsText s scope v

/-- Whether all filters of a list select a transaction. -/
def allSelect : List Filter → View → Bool
  | [], _ => true
  | f :: rest, v => selects f v && allSelect rest v

/-- Whether a filter of a list selects a transaction. -/
def anySelects : List Filter → View → Bool
  | [], _ => false
  | f :: rest, v => selects f v || anySelects rest v

end

theorem allSelect_eq (fs : List Filter) (v : View) : allSelect fs v = fs.all (selects · v) := by
  induction fs with
  | nil => rfl
  | cons f rest ih => simp [allSelect, ih]

theorem anySelects_eq (fs : List Filter) (v : View) : anySelects fs v = fs.any (selects · v) := by
  induction fs with
  | nil => rfl
  | cons f rest ih => simp [anySelects, ih]

/-- Whether a transaction is selected where there may be no filter; no filter selects everything. -/
def selectsBy (f : Option Filter) (v : View) : Bool :=
  match f with
  | some f => f.selects v
  | none => true

end Filter

end Coffer
