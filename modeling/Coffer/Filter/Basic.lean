/-
**Filters.**

A filter is a tree.  Its leaves are *predicates*, which ask about one field of a transaction, and
*free texts*, which are searched for; its inner nodes ask for all or for any of their parts.

A free text is searched for in the description alone, or in everything written about a transaction.
Which of the two is meant is decided for the whole filter at once: as soon as it has a predicate
anywhere, its free texts mean the description.

Main definitions:

* `Coffer.Field`, `Coffer.Comparison`, `Coffer.Value`, `Coffer.Predicate`, `Coffer.Filter`;
* `Coffer.Filter.hasPredicate`, `Coffer.Filter.leafCount` — what is in a filter;
* `Coffer.Filter.reclassify` — settles what the free texts mean;
* `Coffer.Filter.agrees` — equality of filters, with amounts compared as numbers.

Main results: the functions on lists of parts are `List.any`, `List.map` and `List.sum` of the
functions on filters (`Coffer.Filter.anyHasPredicate_eq`, `Coffer.Filter.withScopes_eq`,
`Coffer.Filter.leafCounts_eq`).
-/

import Coffer.Calendar.Span
import Coffer.Text.Lowercase

set_option autoImplicit false

namespace Coffer

/-! ### Fields and values -/

/-- A field of a transaction. -/
inductive Field where
  | category
  | description
  | account
  | tag
  | date
  | amount
  deriving DecidableEq, Repr

namespace Field

/-- The name under which a field is written. -/
def name : Field → String
  | .category => "cat"
  | .description => "desc"
  | .account => "acc"
  | .tag => "tag"
  | .date => "date"
  | .amount => "amount"

/-- Finds a field by one of its names, in any letter case. -/
def ofName? (s : String) : Option Field :=
  match Text.lowercase s with
  | "cat" | "category" => some .category
  | "desc" | "description" => some .description
  | "acc" | "account" => some .account
  | "tag" | "tags" => some .tag
  | "date" => some .date
  | "amount" | "amt" => some .amount
  | _ => none

/-- Whether a field can be compared by order and given as a range. -/
def isOrdered : Field → Bool
  | .date | .amount => true
  | _ => false

end Field

/-- How a field is compared with a value. -/
inductive Comparison where
  /-- It is the value; a description holds it. -/
  | equal
  | greater
  | atLeast
  | less
  | atMost
  deriving DecidableEq, Repr

/-- The sign of a comparison; equality has none. -/
def Comparison.sign : Comparison → String
  | .equal => ""
  | .greater => ">"
  | .atLeast => ">="
  | .less => "<"
  | .atMost => "<="

/-- What a field is compared with. -/
inductive Value where
  | text (s : String)
  | date (span : Span)
  | amount (x : Float)
  /-- From the first day of one span to the last day of another. -/
  | dateRange (low high : Span)
  /-- Between two amounts, both included. -/
  | amountRange (low high : Float)
  deriving DecidableEq

/-- Equality of values, with amounts compared as numbers. -/
def Value.agrees : Value → Value → Bool
  | .text s, .text t => s == t
  | .date s, .date t => s == t
  | .amount x, .amount y => x == y
  | .dateRange s t, .dateRange u v => s == u && t == v
  | .amountRange x y, .amountRange z w => x == z && y == w
  | _, _ => false

/-- A question about one field. -/
structure Predicate where
  field : Field
  comparison : Comparison
  value : Value
  deriving DecidableEq

/-- What a free text is searched for in. -/
inductive TextScope where
  /-- The description. -/
  | description
  /-- Description, category, tags, and the date as recorded and as written in the statement. -/
  | metadata
  deriving DecidableEq, Repr

/-! ### Filters -/

/-- **A filter.** -/
inductive Filter where
  /-- A question about a field. -/
  | field (p : Predicate)
  /-- All parts must match. -/
  | all (parts : List Filter)
  /-- At least one part must match. -/
  | any (parts : List Filter)
  /-- A text to be found. -/
  | text (s : String) (scope : TextScope)

namespace Filter

/-- A free text to be found in the description. -/
def ofText (s : String) : Filter := .text s .description

/-- The question whether a text field is, or for descriptions holds, a text. -/
def ofFieldText (f : Field) (s : String) : Filter := .field ⟨f, .equal, .text s⟩

/-- The question whether a transaction belongs to an account. -/
def ofAccount (name : String) : Filter := ofFieldText .account name

/-- The question whether a transaction is dated between two days, both included. -/
def ofDates (first last : Date) : Filter :=
  .field ⟨.date, .equal, .dateRange (Span.ofDay first) (Span.ofDay last)⟩

/-! ### What is in a filter -/

mutual

/-- Whether there is a predicate anywhere in the filter. -/
def hasPredicate : Filter → Bool
  | .field _ => true
  | .all parts => anyHasPredicate parts
  | .any parts => anyHasPredicate parts
  | .text _ _ => false

/-- Whether there is a predicate in one of the parts. -/
def anyHasPredicate : List Filter → Bool
  | [] => false
  | f :: rest => hasPredicate f || anyHasPredicate rest

end

theorem anyHasPredicate_eq (fs : List Filter) : anyHasPredicate fs = fs.any hasPredicate := by
  induction fs with
  | nil => rfl
  | cons f rest ih => simp [anyHasPredicate, ih]

mutual

/-- The number of leaves. -/
def leafCount : Filter → Nat
  | .field _ => 1
  | .all parts => leafCounts parts
  | .any parts => leafCounts parts
  | .text _ _ => 1

/-- The number of leaves of all parts together. -/
def leafCounts : List Filter → Nat
  | [] => 0
  | f :: rest => leafCount f + leafCounts rest

end

-- the empty sum is the numeral, whatever other instances are in scope
attribute [local instance (high)] Zero.ofOfNat0

theorem leafCounts_eq (fs : List Filter) : leafCounts fs = (fs.map leafCount).sum := by
  induction fs with
  | nil => rfl
  | cons f rest ih => simp [leafCounts, ih]

/-! ### The meaning of free texts -/

mutual

/-- Gives all free texts of a filter one scope. -/
def withScope (scope : TextScope) : Filter → Filter
  | .field p => .field p
  | .all parts => .all (withScopes scope parts)
  | .any parts => .any (withScopes scope parts)
  | .text s _ => .text s scope

/-- Gives all free texts of the parts one scope. -/
def withScopes (scope : TextScope) : List Filter → List Filter
  | [] => []
  | f :: rest => withScope scope f :: withScopes scope rest

end

theorem withScopes_eq (scope : TextScope) (fs : List Filter) :
    withScopes scope fs = fs.map (withScope scope) := by
  induction fs with
  | nil => rfl
  | cons f rest ih => simp [withScopes, ih]

/-- **Settles what the free texts mean:** the description if there is a predicate, else everything
written about a transaction. -/
def reclassify (f : Filter) : Filter :=
  f.withScope (if f.hasPredicate then .description else .metadata)

/-! ### Equality -/

mutual

/-- Equality of filters, with amounts compared as numbers: zero is its own negation, and what is not
a number is not even itself. -/
def agrees : Filter → Filter → Bool
  | .field p, .field q =>
    p.field == q.field && p.comparison == q.comparison && p.value.agrees q.value
  | .all fs, .all gs => allAgree fs gs
  | .any fs, .any gs => allAgree fs gs
  | .text s scope, .text t scope' => s == t && scope == scope'
  | _, _ => false

/-- Equality of lists of filters. -/
def allAgree : List Filter → List Filter → Bool
  | [], [] => true
  | f :: fs, g :: gs => agrees f g && allAgree fs gs
  | _, _ => false

end

end Filter

end Coffer
