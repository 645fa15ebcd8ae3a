/-
**The monthly report on category budgets.**

Main definitions: `Coffer.BudgetLine`, `Coffer.Ledger.budgetLines`.
-/

import Coffer.Report.Spending

set_option autoImplicit false

namespace Coffer

/-- One line of the report: a budget in a month. -/
structure BudgetLine where
  budget : Int
  category : Int
  categoryName : String
  month : String
  balance : Balance

/-- The greatest place a category can have; a category that does not exist comes there. -/
def lastPlace : Int := 2 ^ 63 - 1

namespace Ledger

/-- The place of a budget in the report: by the place of its category, then by its id. -/
def budgetPlace (l : Ledger) (b : Budget) : Int × Int :=
  (((l.catalog.categories.get? b.category).map Category.sortOrder).getD lastPlace, b.category)

/-- Whether one place comes before another or is the same. -/
def placeLe (a b : Int × Int) : Bool := decide (a.1 < b.1) || (a.1 == b.1 && decide (a.2 ≤ b.2))

/-- The name of a category; one that does not exist goes by its id. -/
def categoryName (l : Ledger) (category : Int) : String :=
  match l.catalog.categories.get? category with
  | some c => c.name
  | none => "#" ++ toString category

/-- The override of a budget for a month; of several the last counts. -/
def budgetOverride? (overrides : List BudgetOverride) (budget : Int) (month : String) :
    Option Float :=
  -- the last one is the first one from behind
  (overrides.reverse.find? fun o => o.month == month && o.budget == budget).map (·.amount)

/-- The line of a budget in a month. -/
def budgetLine (l : Ledger) (overrides : List BudgetOverride) (p : Period) (b : Budget) :
    BudgetLine where
  budget := b.id
  category := b.category
  categoryName := l.categoryName b.category
  month := p.key
  balance := Balance.of b.amount (budgetOverride? overrides b.id p.key)
    (l.spending p fun t => t.category == some b.category)

/-- **The report for a month,** given by its key, in the order of the categories. -/
def budgetLines (l : Ledger) (budgets : List Budget) (overrides : List BudgetOverride)
    (month : String) : Except PeriodError (List BudgetLine) := do
  let p ← Period.ofMonthKey month
  let ordered := budgets.mergeSort fun a b => placeLe (l.budgetPlace a) (l.budgetPlace b)
  return ordered.map (l.budgetLine overrides p)

end Ledger

end Coffer
