/-
**The records of a household ledger.**

Transactions belong to accounts, have at most one category and any number of tags.  Saved filters
are filter texts with a name; rules and targets refer to them.  Budgets are monthly amounts for
categories, targets are amounts per period for what a saved filter selects, and both can be
overridden for single periods.  A credit offset says how much of a credit makes up for a debit.

Main definitions: `Coffer.Account`, `Coffer.Category`, `Coffer.Tag`, `Coffer.Transaction`,
`Coffer.SavedFilter`, `Coffer.Rule`, `Coffer.Budget`, `Coffer.Target`, `Coffer.CreditOffset`.
-/

import Coffer.Calendar.Period

set_option autoImplicit false

namespace Coffer

/-- An account. -/
structure Account where
  id : Int
  name : String
  deriving DecidableEq

/-- A spending category. -/
structure Category where
  id : Int
  name : String
  /-- The place of the category in reports. -/
  sortOrder : Int
  color : Option String
  deriving DecidableEq

/-- A tag. -/
structure Tag where
  id : Int
  name : String
  color : Option String
  deriving DecidableEq

/-- What is recorded of a transaction when it is entered. -/
structure Posting where
  account : Option Int
  date : Date
  /-- The date as it stood in the statement. -/
  dateRaw : Option String
  description : String
  /-- Negative for a debit, positive for a credit. -/
  amount : Float
  category : Option Int
  deriving DecidableEq

/-- A transaction: a posting with an id. -/
structure Transaction extends Posting where
  id : Int
  deriving DecidableEq

/-- Whether money went out. -/
def Posting.isDebit (p : Posting) : Bool := decide (p.amount < 0)

/-- How a tag came to a transaction. -/
inductive TagSource where
  /-- Someone attached it. -/
  | manual
  /-- A rule attached it. -/
  | rule
  deriving DecidableEq, Repr

namespace TagSource

/-- The name of a tag source. -/
def name : TagSource → String
  | .manual => "manual"
  | .rule => "rule"

/-- Reads the name of a tag source, in any letter case. -/
def ofName? (s : String) : Option TagSource :=
  match Text.lowercase s with
  | "manual" => some .manual
  | "rule" => some .rule
  | _ => none

/-- The complaint about a word that names no tag source. -/
def unknown (s : String) : String := "Unknown tag source: " ++ s

end TagSource

/-- A filter text under a name. -/
structure SavedFilter where
  id : Int
  name : String
  expression : String
  deriving DecidableEq

/-- What a new rule says: the transactions of a saved filter get a category, tags, or both. -/
structure RuleDraft where
  name : String
  filter : Int
  setCategory : Option Int
  addTags : List Int
  sortOrder : Int
  deriving DecidableEq

/-- A rule. Rules apply in ascending order of `sortOrder`, then of id. -/
structure Rule extends RuleDraft where
  id : Int
  enabled : Bool
  deriving DecidableEq

/-- A monthly amount for a category. -/
structure Budget where
  id : Int
  category : Int
  amount : Float
  deriving DecidableEq

/-- Another amount of a budget for one month, given by its key. -/
structure BudgetOverride where
  budget : Int
  month : String
  amount : Float
  deriving DecidableEq

/-- An amount per period for the transactions of a saved filter. -/
structure Target where
  id : Int
  name : String
  filter : Int
  period : PeriodKind
  amount : Float
  deriving DecidableEq

/-- Another amount of a target for one period, given by its key. -/
structure TargetOverride where
  target : Int
  period : String
  amount : Float
  deriving DecidableEq

/-- How much of a credit makes up for a debit. -/
structure CreditOffset where
  id : Int
  credit : Int
  debit : Int
  amount : Float
  deriving DecidableEq

end Coffer
