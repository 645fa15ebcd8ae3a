/-
**Reading from the store.**

Each table has an order in which it is listed: accounts and saved filters by name, tags by name
without regard to case, categories and rules by their place, transactions from the newest to the
oldest by the text of their date.  Stored texts are turned back into dates, period lengths and tag
sources, and a text that is none is reported; a tag source that is none counts as entered by hand.

Main definitions: `Coffer.Store.listTransactions`, `Coffer.Store.listTargets`,
`Coffer.Store.tagsOf`, `Coffer.Store.tagMap`, and the other `list` functions.
-/

import Coffer.Ledger.Catalog
import Coffer.Store.DateCell
import Coffer.Store.Tables

set_option autoImplicit false

namespace Coffer

namespace Store

/-! ### Orders -/

/-- Two keys one after the other, with an order for each. -/
def thenBy {α : Type} (first second : α → α → Bool) (a b : α) : Bool :=
  first a b && (!first b a || second a b)

/-- Ascending order of a number. -/
def byInt {α : Type} (key : α → Int) (a b : α) : Bool := decide (key a ≤ key b)

/-- Ascending order of a text, character by character. -/
def byText {α : Type} (key : α → String) (a b : α) : Bool := decide (key a ≤ key b)

/-- An order the other way round. -/
def descending {α : Type} (le : α → α → Bool) (a b : α) : Bool := le b a

/-! ### Lists -/

/-- The accounts by name. -/
def listAccounts (s : Store) : List Account := s.accounts.mergeSort (byText Account.name)

/-- The categories by their place, then by id. -/
def listCategories (s : Store) : List Category :=
  s.categories.mergeSort (thenBy (byInt Category.sortOrder) (byInt Category.id))

/-- Tags by name, without regard to case. -/
def tagLe (a b : Tag) : Bool := Text.nameLe a.name b.name

/-- The tags by name, without regard to case. -/
def listTags (s : Store) : List Tag := s.tags.mergeSort tagLe

/-- The saved filters by name. -/
def listFilters (s : Store) : List SavedFilter := s.filters.mergeSort (byText SavedFilter.name)

/-- The rules in the order in which they apply. -/
def listRules (s : Store) : List Rule :=
  s.rules.mergeSort (thenBy (byInt fun r : Rule => r.sortOrder) (byInt Rule.id))

/-- The budgets by id. -/
def listBudgets (s : Store) : List Budget := s.budgets.mergeSort (byInt Budget.id)

/-- The overrides of budgets by budget, then by month. -/
def listBudgetOverrides (s : Store) : List BudgetOverride :=
  s.budgetOverrides.mergeSort (thenBy (byInt BudgetOverride.budget) (byText BudgetOverride.month))

/-- The overrides of targets by target, then by period. -/
def listTargetOverrides (s : Store) : List TargetOverride :=
  s.targetOverrides.mergeSort (thenBy (byInt TargetOverride.target) (byText TargetOverride.period))

/-- The offsets by id. -/
def listOffsets (s : Store) : List CreditOffset := s.offsets.mergeSort (byInt CreditOffset.id)

/-! ### Transactions -/

/-- Why a stored text is no date: it is kept as a number, or cannot be read. -/
def dateError (text : String) (e : DateError) : StoreError :=
  match DateCell.ofText text with
  | .integer _ => .numberForDate true
  | .real _ => .numberForDate false
  | .text _ => .badDate e

/-- The transaction of a record, if its date can be read. -/
def readTransaction (r : TransactionRow) : Except StoreError Transaction :=
  match DateLayout.iso.read r.date.toList with
  | .ok d =>
    .ok { account := r.account, date := d, dateRaw := r.dateRaw, description := r.description,
          amount := r.amount, category := r.category, id := r.id }
  | .error e => .error (dateError r.date e)

/-- Ascending order of a date as its column holds it. -/
def byDate (a b : TransactionRow) : Bool := (DateCell.ofText a.date).le (DateCell.ofText b.date)

/-- Transactions from the newest to the oldest by the text of their date, then by descending id. -/
def newestFirst : TransactionRow → TransactionRow → Bool :=
  thenBy (descending byDate) (descending (byInt TransactionRow.id))

/-- **The transactions,** the newest first. -/
def listTransactions (s : Store) : Except StoreError (List Transaction) :=
  (s.transactions.mergeSort newestFirst).mapM readTransaction

/-- The transaction with an id. -/
def transaction? (s : Store) (i : Int) : Except StoreError (Option Transaction) :=
  match s.transactions.find? (·.id == i) with
  | some r => (readTransaction r).map some
  | none => .ok none

/-! ### Tags of transactions -/

/-- The tags of a transaction with the texts of their sources, by name. -/
def linkedTags (s : Store) (transaction : Int) : List (Tag × String) :=
  ((s.links.filter (·.transaction == transaction)).filterMap fun l =>
    (s.tags.find? (·.id == l.tag)).map fun t => (t, l.source)).mergeSort fun a b => tagLe a.1 b.1

/-- The tags of a transaction and how each came to it. -/
def tagsOf (s : Store) (transaction : Int) : List (Tag × TagSource) :=
  (s.linkedTags transaction).map fun e => (e.1, (TagSource.ofName? e.2).getD .manual)

/-- The tags of all transactions that have some. -/
def tagMap (s : Store) : TagMap :=
  Index.ofList ((ascending (s.links.map TagLink.transaction)).map fun i =>
    (i, (s.linkedTags i).map Prod.fst))

/-! ### Targets -/

/-- The target of a record, if its period length can be read. -/
def readTarget (r : TargetRow) : Except Error Target :=
  match PeriodKind.ofName? r.period with
  | some k => .ok ⟨r.id, r.name, r.filter, k, r.amount⟩
  | none => .error (.unknownPeriod r.period)

/-- The targets by name, then by id. -/
def listTargets (s : Store) : Except Error (List Target) :=
  (s.targets.mergeSort (thenBy (byText TargetRow.name) (byInt TargetRow.id))).mapM readTarget

/-! ### Account scopes -/

/-- The ids of accounts by name. -/
def accountIds (s : Store) (names : List String) : Except Error (List Int) :=
  names.mapM fun name =>
    match s.accountNamed? name with
    | some a => .ok a.id
    | none => .error (.noAccount name)

/-- **The scope of accounts given by name;** none means all. -/
def scopeOf (s : Store) (names : List String) : Except Error AccountScope :=
  (s.accountIds names).map AccountScope.only

end Store

end Coffer
