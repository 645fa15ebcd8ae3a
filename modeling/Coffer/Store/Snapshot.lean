/-
**Everything that rules and reports read, as of one moment.**

A snapshot is taken from the store in one go and then stands for itself: what happens to the store
afterwards does not change it.

Main definitions: `Coffer.Snapshot`, `Coffer.Store.snapshot`, `Coffer.Snapshot.plan`,
`Coffer.Snapshot.dryRun`, `Coffer.Snapshot.apply`, `Coffer.Snapshot.budgetLines`,
`Coffer.Snapshot.targetReport`, `Coffer.Snapshot.search`.
-/

import Coffer.Report.Budget
import Coffer.Report.Target
import Coffer.Store.Reading
import Coffer.Store.Writing

set_option autoImplicit false

namespace Coffer

/-- The records of the store as of one moment. -/
structure Snapshot where
  transactions : List Transaction
  tagMap : TagMap
  catalog : Catalog
  savedFilters : Index SavedFilter
  rules : List Rule
  budgets : List Budget
  budgetOverrides : List BudgetOverride
  targets : List Target
  targetOverrides : List TargetOverride
  offsets : List CreditOffset

/-- **Takes a snapshot of the store.** -/
def Store.snapshot (s : Store) : Except Error Snapshot := do
  let transactions ← s.listTransactions.mapError Error.store
  let targets ← s.listTargets
  return {
    transactions := transactions
    tagMap := s.tagMap
    catalog := Catalog.ofRecords s.listCategories s.listAccounts s.listTags
    savedFilters := Index.ofRecords SavedFilter.id s.listFilters
    rules := s.listRules
    budgets := s.listBudgets
    budgetOverrides := s.listBudgetOverrides
    targets := targets
    targetOverrides := s.listTargetOverrides
    offsets := s.listOffsets }

namespace Snapshot

/-- What reports are made from. -/
def ledger (n : Snapshot) (scope : AccountScope) : Ledger :=
  ⟨n.transactions, n.tagMap, n.catalog, offsetsByDebit n.offsets, scope⟩

/-- What the rules would change. -/
def plan (n : Snapshot) (scope : AccountScope) : RulePlan :=
  Rules.plan n.catalog n.tagMap n.savedFilters scope n.transactions n.rules

/-- Tries the rules as they are in the snapshot: what applying them would come to. -/
def dryRun (n : Snapshot) (scope : AccountScope) : Rules.DryRun := .ofPlan (n.plan scope)

/-- **Applies the rules** as they are in the snapshot, writing to a store as it is now. -/
def apply (n : Snapshot) (scope : AccountScope) (s : Store) :
    Except StoreError (Rules.Applied × Store) :=
  let p := n.plan scope
  let sink : List Mutation → StateT Store (Except StoreError) Unit := fun ms s =>
    (s.writeMutations ms).map ((), ·)
  (Rules.carryOut sink p).run s

/-- The report on budgets for a month. -/
def budgetLines (n : Snapshot) (scope : AccountScope) (month : String) :
    Except PeriodError (List BudgetLine) :=
  (n.ledger scope).budgetLines n.budgets n.budgetOverrides month

/-- The report on targets for a day. -/
def targetReport (n : Snapshot) (scope : AccountScope) (day : Date) : TargetReport :=
  (n.ledger scope).targetReport n.savedFilters n.targetOverrides day n.targets

/-- **The transactions in a scope that a filter text finds.** -/
def search (n : Snapshot) (scope : AccountScope) (text : String) : List Transaction :=
  let f := Filter.parseSearch text
  n.transactions.filter fun t => scope.holds t && Filter.selectsBy f ((n.ledger scope).view t)

end Snapshot

end Coffer
