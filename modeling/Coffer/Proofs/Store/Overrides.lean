/-
**Setting an amount for one period.**

An amount that is set for a period is written over the one that was set before, or is entered if
there was none.  Either way it is what is found for the period afterwards, and what is found for any
other period or any other record is as before.  A snapshot lists the amounts in another order, which
does not matter, since there is one amount under each key.

Main definitions:

* `Coffer.OverrideTable.amount?` — the amount that is found under a key;
* `Coffer.OverrideTable.Listing` — how the amounts of a table are listed and looked up;
* `Coffer.Balance.overriddenBy`, `Coffer.TargetLine.overriddenBy`,
  `Coffer.BudgetLine.overriddenBy` — the same sums set against another amount.

Main results:

* `Coffer.OverrideTable.Listing.found?_override` — **an amount that is set for a record and a
  period is what is found for them,** and nothing else changes;
* `Coffer.Store.snapshot_overrides` — nothing else in a snapshot is another;
* `Coffer.Ledger.targetReport_of_override`, `Coffer.Ledger.budgetLines_of_override` — **what an
  amount that is set changes in a report.**
-/

import Coffer.Proofs.Report.TargetSpec
import Coffer.Proofs.Store.Integrity

set_option autoImplicit false

namespace Coffer

/-! ### Looking amounts up -/

namespace OverrideTable

variable {α : Type} {T : OverrideTable α} {s s' : Store}

/-- The amount under a key, the first if there are several. -/
def amount? (T : OverrideTable α) (rows : List α) (key : Int × String) : Option Float :=
  (rows.find? fun o => decide (T.key o = key)).map T.amount

/-- What is found under a key does not depend on the order, if there is one row under each. -/
theorem amount?_of_perm {rows rows' : List α} (hperm : rows'.Perm rows)
    (hsingle : (rows.map T.key).Nodup) (key : Int × String) :
    T.amount? rows' key = T.amount? rows key := by
  unfold amount?
  simp only [← beq_eq_decide]
  rw [find?_id_eq_of_perm hsingle hperm.symm]

/-- How the amounts of a table are read: its rows are listed, and the amount for a record and a
period is the one under their key, whichever way the list is gone through. -/
structure Listing (T : OverrideTable α) where
  list : Store → List α
  found? : List α → Int → String → Option Float
  /-- the rows in the order in which they are gone through -/
  inOrder : List α → List α
  perm_list : ∀ s, (inOrder (list s)).Perm (T.rows s)
  found?_eq : ∀ os i period, found? os i period = T.amount? (inOrder os) (i, period)

/-- **An amount that is set for a record and a period is what is found for them,** what is found for
others is as before, and so are all other tables. -/
theorem Listing.found?_override (L : T.Listing) {i : Int} {period : String} {x : Float}
    (hsingle : ((T.rows s).map T.key).Nodup) (h : s.override T (i, period) x = .ok s') :
    ∃ amount rows, Store.keepAmount T.column x = .ok amount ∧ s' = T.put s rows ∧
      ∀ j key, L.found? (L.list s') j key =
        if j = i ∧ key = period then some amount else L.found? (L.list s) j key := by
  obtain ⟨amount, hamount, -, rfl⟩ := of_override_eq_ok h
  refine ⟨amount, _, hamount, rfl, fun j key => ?_⟩
  have hperm := L.perm_list (T.put s (upsert T.key (T.row (i, period) amount) (T.rows s)))
  rw [T.rows_put] at hperm
  rw [L.found?_eq, L.found?_eq, amount?_of_perm (L.perm_list s) hsingle,
    amount?_of_perm hperm (nodup_upsert hsingle), amount?, find?_upsert, T.key_row]
  simp only [Prod.mk.injEq]
  split
  · rw [Option.map_some, T.amount_row]
  · rfl

/-- How the amounts of targets are read: the first under a key counts. -/
def targets.listing : targets.Listing where
  list := Store.listTargetOverrides
  found? := Ledger.targetOverride?
  inOrder := id
  perm_list _ := List.mergeSort_perm _ _
  found?_eq os i period := by
    simp only [Ledger.targetOverride?, amount?, targets, Prod.mk.injEq, Bool.decide_and,
      beq_eq_decide, id_eq]

/-- How the amounts of budgets are read: the last under a key counts. -/
def budgets.listing : budgets.Listing where
  list := Store.listBudgetOverrides
  found? := Ledger.budgetOverride?
  inOrder := List.reverse
  perm_list _ := (List.reverse_perm _).trans (List.mergeSort_perm _ _)
  found?_eq os i month := by
    simp only [Ledger.budgetOverride?, amount?, budgets, Prod.mk.injEq, Bool.decide_and,
      beq_eq_decide, Bool.and_comm]

end OverrideTable

namespace Store

variable {s : Store} {n : Snapshot}

/-! ### Snapshots -/

/-- A snapshot of a store with other amounts for single periods is as before but for these. -/
theorem snapshot_overrides (h : s.snapshot = .ok n) {bs bs' : List BudgetOverride}
    {os os' : List TargetOverride}
    (hbs : listBudgetOverrides { s with budgetOverrides := bs, targetOverrides := os } = bs')
    (hos : listTargetOverrides { s with budgetOverrides := bs, targetOverrides := os } = os') :
    snapshot { s with budgetOverrides := bs, targetOverrides := os } =
      .ok { n with budgetOverrides := bs', targetOverrides := os' } := by
  subst hbs hos
  obtain ⟨ts, hts, h⟩ := Except.of_bind_eq_ok h
  obtain ⟨gs, hgs, h⟩ := Except.of_bind_eq_ok h
  cases h
  unfold snapshot
  have hts' : (listTransactions
      { s with budgetOverrides := bs, targetOverrides := os }).mapError Error.store = .ok ts := hts
  have hgs' : listTargets { s with budgetOverrides := bs, targetOverrides := os } = .ok gs := hgs
  rw [hts', hgs']
  rfl

end Store

/-! ### Reports -/

/-- The same sums set against another amount. -/
def Balance.overriddenBy (b : Balance) (amount : Float) : Balance :=
  { b with budgeted := amount, overridden := true }

/-- A line with another amount. -/
def TargetLine.overriddenBy (line : TargetLine) (amount : Float) : TargetLine :=
  { line with balance := line.balance.overriddenBy amount }

/-- A line with another amount. -/
def BudgetLine.overriddenBy (line : BudgetLine) (amount : Float) : BudgetLine :=
  { line with balance := line.balance.overriddenBy amount }

namespace Ledger

variable {l : Ledger} {savedFilters : Index SavedFilter} {day : Date} {amount : Float}

section

variable {os os' : List TargetOverride} {target : Int} {period : String}

/-- The line of a target after an amount is set. -/
theorem targetLine_of_override
    (hfound : ∀ i key, targetOverride? os' i key =
      if i = target ∧ key = period then some amount else targetOverride? os i key) (g : Target) :
    l.targetLine savedFilters os' day g = (l.targetLine savedFilters os day g).map fun line =>
      if line.target = target ∧ line.period.key = period then line.overriddenBy amount
      else line := by
  cases hbound : g.boundFilter savedFilters with
  | error e =>
      rw [targetLine_eq_error hbound, targetLine_eq_error hbound]
      rfl
  | ok f =>
      rw [targetLine_eq_ok hbound, targetLine_eq_ok hbound, hfound, Except.map]
      dsimp only
      split
      · rfl
      · rfl

/-- **The report on targets after an amount is set:** the same failures, and the same lines but for
those of the target and the period. -/
theorem targetReport_of_override
    (hfound : ∀ i key, targetOverride? os' i key =
      if i = target ∧ key = period then some amount else targetOverride? os i key)
    (gs : List Target) :
    l.targetReport savedFilters os' day gs =
      ⟨(l.targetReport savedFilters os day gs).lines.map fun line =>
          if line.target = target ∧ line.period.key = period then line.overriddenBy amount
          else line,
        (l.targetReport savedFilters os day gs).failures⟩ := by
  induction gs with
  | nil => rfl
  | cons g gs ih =>
      rw [targetReport_cons, targetReport_cons, ih, targetLine_of_override hfound]
      cases l.targetLine savedFilters os day g <;> rfl

end

section

variable {os os' : List BudgetOverride} {budget : Int} {month : String}

/-- The line of a budget after an amount is set. -/
theorem budgetLine_of_override
    (hfound : ∀ i key, budgetOverride? os' i key =
      if i = budget ∧ key = month then some amount else budgetOverride? os i key)
    (p : Period) (b : Budget) :
    l.budgetLine os' p b =
      if b.id = budget ∧ p.key = month then (l.budgetLine os p b).overriddenBy amount
      else l.budgetLine os p b := by
  unfold budgetLine
  rw [hfound]
  split
  · rfl
  · rfl

/-- **The report on budgets after an amount is set:** the same lines but for that of the budget in
the report for the month. -/
theorem budgetLines_of_override
    (hfound : ∀ i key, budgetOverride? os' i key =
      if i = budget ∧ key = month then some amount else budgetOverride? os i key)
    (budgets : List Budget) (key : String) :
    l.budgetLines budgets os' key = (l.budgetLines budgets os key).map fun lines =>
      lines.map fun line =>
        if line.budget = budget ∧ line.month = month then line.overriddenBy amount else line := by
  rw [budgetLines_eq, budgetLines_eq]
  cases Period.ofMonthKey key with
  | error e => rfl
  | ok p =>
      simp only [Except.map, List.map_map]
      refine congrArg Except.ok (List.map_congr_left fun b _ => ?_)
      exact budgetLine_of_override hfound p b

end

end Ledger

end Coffer
