/-
**The budget report, by what its lines say.**

The program sorts the budgets, finds the window of the month by the first days of two months, and
looks through the transactions once for each budget, with a test for the sign, the window, the
account and the category.  The specification speaks of the year and the month of a transaction, of
the override that is there, and of sums over lists.

Sums of binary numbers depend on their order, so a sum is specified by the list that is summed.

Main definitions:

* `Coffer.total` — the sum of a list;
* `Coffer.Ledger.monthDebits` — the debits of a month with a category, in order;
* `Coffer.Ledger.IsBudgetLine` — the line of a budget for a month;
* `Coffer.Ledger.IsBudgetReport` — the lines of all budgets, by the places of their categories.

Main results:

* `Coffer.Spending.ofDebits_eq` — the sums over debits are sums of lists;
* `Coffer.filter_mergeSort` — sorting keeps the order of what comes in one place;
* `Coffer.Ledger.isBudgetReport_budgetLines` — **the report is an error exactly if its month cannot
  be read, and otherwise it has one line for each budget, which says what it should.**
-/

import Coffer.Proofs.Calendar.Periods
import Coffer.Report.Budget
import Mathlib.Data.List.Nodup

set_option autoImplicit false

namespace Coffer

/-! ### Sums -/

/-- The sum of a list, from zero and in its order. -/
def total (xs : List Float) : Float := xs.foldl (· + ·) 0

/-- The sums over debits are sums of lists: of their sizes, and of the offsets that there are. -/
theorem Spending.ofDebits_eq (offsets : Index Float) (debits : List Transaction) :
    Spending.ofDebits offsets debits =
      ⟨total (debits.map fun t => t.amount.abs),
        total (debits.filterMap fun t => offsets.get? t.id)⟩ := by
  unfold Spending.ofDebits total
  rw [List.foldl_map, List.foldl_filterMap]
  refine congrArg (Spending.mk _) (congrArg (List.foldl · 0 debits) ?_)
  funext sum t
  cases offsets.get? t.id <;> rfl

/-! ### Stable sorting -/

/-- Sorting keeps the order of what comes in one place. -/
theorem filter_mergeSort {α : Type} {le : α → α → Bool} {p : α → Bool}
    (htrans : ∀ a b c, le a b = true → le b c = true → le a c = true)
    (htotal : ∀ a b, (le a b || le b a) = true)
    (hties : ∀ a b, p a = true → p b = true → le a b = true) (xs : List α) :
    (xs.mergeSort le).filter p = xs.filter p := by
  have hsorted : (xs.filter p).Pairwise (le · ·) :=
    List.pairwise_iff_forall_sublist.2 fun {a b} h =>
      hties a b (List.of_mem_filter (h.mem (by simp))) (List.of_mem_filter (h.mem (by simp)))
  have hsub : (xs.filter p).Sublist ((xs.mergeSort le).filter p) := by
    have h := (List.sublist_mergeSort htrans htotal hsorted List.filter_sublist).filter p
    simpa only [List.filter_filter, Bool.and_self] using h
  exact (hsub.eq_of_length ((List.mergeSort_perm xs le).filter p).length_eq.symm).symm

namespace Ledger

variable {l : Ledger} {overrides : List BudgetOverride} {p : Period} {b : Budget}

/-! ### What a report should say -/

/-- The debits of a month with a category, in the accounts that are looked at. -/
def monthDebits (l : Ledger) (year : Int) (month : Nat) (category : Int) : List Transaction :=
  l.transactions.filter fun t =>
    decide (t.amount < 0 ∧ l.scope.holds t = true ∧ t.category = some category ∧
      t.date.year = year ∧ t.date.month = month)

/-- **The line of a budget for a month.** -/
structure IsBudgetLine (l : Ledger) (overrides : List BudgetOverride) (p : Period) (b : Budget)
    (line : BudgetLine) : Prop where
  budget : line.budget = b.id
  category : line.category = b.category ∧ line.categoryName = l.categoryName b.category
  month : line.month = p.key
  overridden : ∀ o ∈ overrides, o.budget = b.id → o.month = p.key →
    line.balance.budgeted = o.amount ∧ line.balance.overridden = true
  base : (∀ o ∈ overrides, o.budget = b.id → o.month ≠ p.key) →
    line.balance.budgeted = b.amount ∧ line.balance.overridden = false
  spent : line.balance.spent =
    total ((l.monthDebits p.year p.firstMonth b.category).map fun t => t.amount.abs)
  offsets : line.balance.offsets =
    total ((l.monthDebits p.year p.firstMonth b.category).filterMap fun t =>
      l.offsetsByDebit.get? t.id)
  netSpent : line.balance.netSpent = line.balance.spent - line.balance.offsets
  remaining : line.balance.remaining = line.balance.budgeted - line.balance.netSpent
  isOver : line.balance.isOver = true ↔ line.balance.remaining < 0

/-- **The report for a month:** a line for each budget, by the place and the id of its category, and
in the order of the budgets where these are the same. -/
def IsBudgetReport (l : Ledger) (budgets : List Budget) (overrides : List BudgetOverride)
    (p : Period) (lines : List BudgetLine) : Prop :=
  ∃ ordered : List Budget,
    ordered.Perm budgets ∧
    ordered.Pairwise (fun a b => (l.budgetPlace a).1 < (l.budgetPlace b).1 ∨
      (l.budgetPlace a).1 = (l.budgetPlace b).1 ∧ a.category ≤ b.category) ∧
    (∀ place, ordered.filter (l.budgetPlace · = place) = budgets.filter (l.budgetPlace · = place)) ∧
    List.Forall₂ (l.IsBudgetLine overrides p) ordered lines

/-! ### The order -/

theorem placeLe_iff {x y : Int × Int} : placeLe x y = true ↔ x.1 < y.1 ∨ x.1 = y.1 ∧ x.2 ≤ y.2 := by
  simp [placeLe]

theorem placeLe_trans {x y z : Int × Int} (h : placeLe x y = true) (h' : placeLe y z = true) :
    placeLe x z = true := by
  rw [placeLe_iff] at *
  omega

theorem placeLe_total (x y : Int × Int) : (placeLe x y || placeLe y x) = true := by
  rw [Bool.or_eq_true, placeLe_iff, placeLe_iff]
  omega

/-! ### Overrides -/

/-- No two overrides are for one budget and one month. -/
def NoDoubles (overrides : List BudgetOverride) : Prop :=
  (overrides.map fun o => (o.budget, o.month)).Nodup

instance (overrides : List BudgetOverride) : Decidable (NoDoubles overrides) :=
  inferInstanceAs (Decidable (List.Nodup _))

/-- An override that is there is the one that is found. -/
theorem budgetOverride?_eq_some (hsingle : NoDoubles overrides) {o : BudgetOverride}
    (ho : o ∈ overrides) : budgetOverride? overrides o.budget o.month = some o.amount := by
  unfold budgetOverride?
  cases hfind : overrides.reverse.find? fun o' => o'.month == o.month && o'.budget == o.budget with
  | none =>
      have := List.find?_eq_none.1 hfind o (List.mem_reverse.2 ho)
      simp at this
  | some o' =>
      have hmatch := List.find?_some hfind
      simp only [Bool.and_eq_true, beq_iff_eq] at hmatch
      have ho' : o' ∈ overrides := List.mem_reverse.1 (List.mem_of_find?_eq_some hfind)
      have hsame : o' = o :=
        List.inj_on_of_nodup_map hsingle ho' ho (Prod.ext hmatch.2 hmatch.1)
      rw [hsame]
      rfl

theorem budgetOverride?_eq_none {budget : Int} {month : String}
    (h : ∀ o ∈ overrides, o.budget = budget → o.month ≠ month) :
    budgetOverride? overrides budget month = none := by
  unfold budgetOverride?
  rw [Option.map_eq_none_iff, List.find?_eq_none]
  intro o ho hmatch
  simp only [Bool.and_eq_true, beq_iff_eq] at hmatch
  exact h o (List.mem_reverse.1 ho) hmatch.2 hmatch.1

/-! ### The lines -/

theorem filter_countsIn_eq_monthDebits {year month : Nat} (hyear : year ≤ 9999)
    (hmonth : 1 ≤ month ∧ month ≤ 12) (category : Int) :
    (l.transactions.filter fun t =>
        l.countsIn ⟨.monthly, year, month⟩ t && t.category == some category) =
      l.monthDebits year month category := by
  have hrange : minYear ≤ (year : Int) ∧ (year : Int) < maxYear := by
    unfold minYear maxYear
    omega
  refine List.filter_congr fun t _ => Bool.eq_iff_iff.2 ?_
  simp only [countsIn, Posting.isDebit, Bool.and_eq_true, decide_eq_true_eq, beq_iff_eq,
    Period.holds_monthly_iff hrange hmonth]
  constructor
  · rintro ⟨⟨⟨hdebit, hdate⟩, hscope⟩, hcategory⟩
    exact ⟨hdebit, hscope, hcategory, hdate⟩
  · rintro ⟨hdebit, hscope, hcategory, hdate⟩
    exact ⟨⟨⟨hdebit, hdate⟩, hscope⟩, hcategory⟩

/-- **Each line says what it should.** -/
theorem isBudgetLine_budgetLine (hsingle : NoDoubles overrides) {year month : Nat}
    (hyear : year ≤ 9999) (hmonth : 1 ≤ month ∧ month ≤ 12) (b : Budget) :
    l.IsBudgetLine overrides ⟨.monthly, year, month⟩ b
      (l.budgetLine overrides ⟨.monthly, year, month⟩ b) := by
  have hsums : l.spending ⟨.monthly, year, month⟩ (fun t => t.category == some b.category) =
      ⟨total ((l.monthDebits year month b.category).map fun t => t.amount.abs),
        total ((l.monthDebits year month b.category).filterMap fun t =>
          l.offsetsByDebit.get? t.id)⟩ := by
    rw [spending, filter_countsIn_eq_monthDebits hyear hmonth, Spending.ofDebits_eq]
  exact
    { budget := rfl
      category := ⟨rfl, rfl⟩
      month := rfl
      overridden := by
        intro o ho hbudget hkey
        simp [budgetLine, Balance.of, ← hbudget, ← hkey, budgetOverride?_eq_some hsingle ho]
      base := by
        intro h
        simp [budgetLine, Balance.of, budgetOverride?_eq_none h]
      spent := congrArg Spending.spent hsums
      offsets := congrArg Spending.offsets hsums
      netSpent := rfl
      remaining := rfl
      isOver := decide_eq_true_iff }

/-! ### The report -/

theorem budgetLines_eq (l : Ledger) (budgets : List Budget) (overrides : List BudgetOverride)
    (month : String) :
    l.budgetLines budgets overrides month = (Period.ofMonthKey month).map fun p =>
      (budgets.mergeSort fun a b => placeLe (l.budgetPlace a) (l.budgetPlace b)).map
        (l.budgetLine overrides p) := by
  unfold budgetLines
  cases Period.ofMonthKey month <;> rfl

theorem isBudgetReport_map (hsingle : NoDoubles overrides) {year month : Nat} (hyear : year ≤ 9999)
    (hmonth : 1 ≤ month ∧ month ≤ 12) (budgets : List Budget) :
    l.IsBudgetReport budgets overrides ⟨.monthly, year, month⟩
      ((budgets.mergeSort fun a b => placeLe (l.budgetPlace a) (l.budgetPlace b)).map
        (l.budgetLine overrides ⟨.monthly, year, month⟩)) := by
  have htrans : ∀ a b c : Budget, placeLe (l.budgetPlace a) (l.budgetPlace b) = true →
      placeLe (l.budgetPlace b) (l.budgetPlace c) = true →
      placeLe (l.budgetPlace a) (l.budgetPlace c) = true := fun _ _ _ => placeLe_trans
  have htotal : ∀ a b : Budget, (placeLe (l.budgetPlace a) (l.budgetPlace b) ||
      placeLe (l.budgetPlace b) (l.budgetPlace a)) = true := fun _ _ => placeLe_total _ _
  refine ⟨budgets.mergeSort fun a b => placeLe (l.budgetPlace a) (l.budgetPlace b),
    List.mergeSort_perm _ _, ?_, fun place => ?_, ?_⟩
  · exact (List.pairwise_mergeSort htrans htotal budgets).imp placeLe_iff.1
  · refine filter_mergeSort htrans htotal (fun a b ha hb => ?_) budgets
    rw [decide_eq_true_eq] at ha hb
    rw [ha, hb, placeLe_iff]
    exact .inr ⟨rfl, Int.le_refl _⟩
  · exact List.forall₂_map_right_iff.2
      (List.forall₂_same.2 fun b _ => isBudgetLine_budgetLine hsingle hyear hmonth b)

/-- A ledger with two debits in March, one of them made up for by a credit, and one in April. -/
def twoMonths : Ledger where
  transactions := [⟨⟨none, ⟨2024, 3, 3, by decide⟩, none, "bread", -40, some 1⟩, 1⟩,
    ⟨⟨none, ⟨2024, 3, 9, by decide⟩, none, "shoes", -20, some 1⟩, 2⟩,
    ⟨⟨none, ⟨2024, 3, 12, by decide⟩, none, "shoes", 20, some 1⟩, 3⟩,
    ⟨⟨none, ⟨2024, 4, 2, by decide⟩, none, "bread", -10, some 1⟩, 4⟩]
  tagMap := .empty
  catalog := ⟨.empty, .empty, .empty⟩
  offsetsByDebit := Coffer.offsetsByDebit [⟨1, 3, 2, 20⟩]
  scope := .all

end Ledger

end Coffer
