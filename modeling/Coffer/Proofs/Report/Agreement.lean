/-
**The two reports on spending agree.**

A budget asks for a category by its id, for a month that is given by its key.  A target asks by the
text of a filter, for the period that holds a day.  A target whose filter asks for a category by
name, and which is for a month, asks for what a budget on that category asks for, as long as no
other category has the name in any letter case.  Then both look at the same debits in the same
order, so the sums, which depend on the order, are the same as well.

Main definitions:

* `Coffer.Catalog.OnlyBearer` — a category that no other category shares its name with;
* `Coffer.Balance.Agrees` — two balances that say the same of what was spent and what is left.

Main results:

* `Coffer.Filter.parseBound_ofFieldText` — a canonical question about a text is read back;
* `Coffer.Ledger.spending_ofCategoryName` — asking by the name is asking by the id, in any period;
* `Coffer.Ledger.budgetLine_agrees_targetLine` — **the line of a budget and the line of such a
  target agree.**
-/

import Coffer.Proofs.Calendar.Keys
import Coffer.Proofs.Filter.RoundTrip
import Coffer.Proofs.Report.TargetSpec

set_option autoImplicit false

namespace Coffer

/-! ### Asking by name -/

/-- A category whose name is not empty and that no other category shares it with, in any letter
case. -/
structure Catalog.OnlyBearer (c : Catalog) (category : Int) (name : String) : Prop where
  named : (c.categories.get? category).map Category.name = some name
  notEmpty : name ≠ ""
  alone : ∀ i other, c.categories.get? i = some other → Text.sameLetters other.name name = true →
    i = category

/-- The canonical text of a question about a text is read back, whatever the text is. -/
theorem Filter.parseBound_ofFieldText {f : Field} {s : String} (hf : f.isOrdered = false)
    (hs : s ≠ "") : parseBound (ofFieldText f s).canonical = .ok (ofFieldText f s) := by
  have hwritten : (ofFieldText f s).IsWritten := .field (.text hf hs)
  unfold parseBound
  rw [parse_canonical hwritten]
  rfl

namespace Ledger

variable {l : Ledger} {category : Int} {name : String}

/-- The question about a category by its name selects the transactions with its id. -/
theorem selects_ofCategoryName (h : l.catalog.OnlyBearer category name) (t : Transaction) :
    (Filter.ofFieldText .category name).selects (l.view t) = (t.category == some category) := by
  have hselects : (Filter.ofFieldText .category name).selects (l.view t) =
      (l.view t).category.any fun n => Text.sameLetters n name := rfl
  have hview : (l.view t).category =
      t.category.bind fun i => (l.catalog.categories.get? i).map Category.name := rfl
  rw [hselects, hview]
  cases hcategory : t.category with
  | none => rfl
  | some i =>
      rw [Option.bind_some]
      by_cases hi : i = category
      · subst hi
        rw [h.named]
        simp [Text.sameLetters]
      · cases hget : l.catalog.categories.get? i with
        | none => simp [hi]
        | some other =>
            have hother : Text.sameLetters other.name name = false := by
              by_contra hsame
              exact hi (h.alone i other hget (Bool.eq_true_of_not_eq_false hsame))
            simp [hi, hother]

/-- Asking for a category by its name is asking for it by its id, in any period. -/
theorem spending_ofCategoryName (h : l.catalog.OnlyBearer category name) (p : Period) :
    l.spending p (fun t => (Filter.ofFieldText .category name).selects (l.view t)) =
      l.spending p (fun t => t.category == some category) := by
  unfold spending
  refine congrArg (Spending.ofDebits l.offsetsByDebit) (List.filter_congr ?_)
  intro t _
  exact congrArg (l.countsIn p t && ·) (selects_ofCategoryName h t)

end Ledger

/-! ### Balances -/

/-- Two balances that say the same of what was spent and what is left of the amount. -/
structure Balance.Agrees (x y : Balance) : Prop where
  spent : x.spent = y.spent
  offsets : x.offsets = y.offsets
  netSpent : x.netSpent = y.netSpent
  remaining : x.remaining = y.remaining
  isOver : x.isOver = y.isOver

/-- The same amount set against the same sums leaves the same, overridden or not. -/
theorem Balance.agrees_of {base base' : Float} {override override' : Option Float}
    (h : override.getD base = override'.getD base') (s : Spending) :
    (Balance.of base override s).Agrees (Balance.of base' override' s) := by
  have hnet : (Balance.of base override s).netSpent = (Balance.of base' override' s).netSpent := rfl
  have hremaining :
      (Balance.of base override s).remaining = (Balance.of base' override' s).remaining := by
    have hbudgeted :
        (Balance.of base override s).budgeted = (Balance.of base' override' s).budgeted := h
    rw [remaining, remaining, hbudgeted, hnet]
  exact
    { spent := rfl
      offsets := rfl
      netSpent := hnet
      remaining := hremaining
      isOver := by rw [isOver, isOver, hremaining] }

namespace Ledger

variable {l : Ledger}

/-! ### The lines of the reports -/

/-- The report on budgets has the line of each of them. -/
theorem budgetLine_mem_budgetLines {budgets : List Budget} {month : String} {p : Period}
    {b : Budget} (hmonth : Period.ofMonthKey month = .ok p) (hb : b ∈ budgets)
    (overrides : List BudgetOverride) :
    ∃ lines, l.budgetLines budgets overrides month = .ok lines ∧
      l.budgetLine overrides p b ∈ lines := by
  rw [budgetLines_eq, hmonth]
  exact ⟨_, rfl, List.mem_map_of_mem (List.mem_mergeSort.2 hb)⟩

/-! ### Agreement -/

/-- **The two reports agree.** Take a category whose name no other category shares, whatever text
the name is, and a day of a year that a key has room for.  A budget on the category and a monthly
target whose filter is the canonical question for the name have both a line, the budget in the
report for the month of the day, however its key is written, and the target in the report for the
day.  If the amounts that count are the same, the two lines agree. -/
theorem budgetLine_agrees_targetLine (l : Ledger) (savedFilters : Index SavedFilter)
    (budgets : List Budget) (overrides : List BudgetOverride)
    (targets : List Target) (targetOverrides : List TargetOverride) (day : Date)
    {category : Int} {name : String} {b : Budget} {g : Target} {saved : SavedFilter}
    (hname : l.catalog.OnlyBearer category name)
    (hyear : 0 ≤ day.year ∧ day.year ≤ 9999)
    (hb : b ∈ budgets) (hcategory : b.category = category)
    (hg : g ∈ targets) (hmonthly : g.period = .monthly)
    (hsaved : savedFilters.get? g.filter = some saved)
    (hexpression : saved.expression = (Filter.ofFieldText .category name).canonical)
    (hamount : (budgetOverride? overrides b.id (Period.containing .monthly day).key).getD b.amount =
      (targetOverride? targetOverrides g.id (Period.containing .monthly day).key).getD g.amount) :
    Period.ofMonthKey (Period.containing .monthly day).key = .ok (Period.containing .monthly day) ∧
    ∀ month, Period.ofMonthKey month = .ok (Period.containing .monthly day) →
      ∃ lines line,
        l.budgetLines budgets overrides month = .ok lines ∧
        l.budgetLine overrides (Period.containing .monthly day) b ∈ lines ∧
        l.targetLine savedFilters targetOverrides day g = .ok line ∧
        line ∈ (l.targetReport savedFilters targetOverrides day targets).lines ∧
        line.period = Period.containing .monthly day ∧
        (l.budgetLine overrides (Period.containing .monthly day) b).balance.Agrees
          line.balance := by
  have hbound : g.boundFilter savedFilters = .ok (Filter.ofFieldText .category name) := by
    unfold Target.boundFilter Filter.ofSaved
    rw [hsaved]
    dsimp only
    rw [hexpression, Filter.parseBound_ofFieldText rfl hname.notEmpty]
    rfl
  have hline := targetLine_eq_ok (l := l) hbound targetOverrides day
  rw [hmonthly, spending_ofCategoryName hname, ← hcategory] at hline
  refine ⟨Period.ofMonthKey_key hyear, ?_⟩
  intro month hmonth
  obtain ⟨lines, hlines, hmem⟩ := budgetLine_mem_budgetLines (l := l) hmonth hb overrides
  exact ⟨lines, _, hlines, hmem, hline, mem_lines_targetReport hg hline, rfl,
    Balance.agrees_of hamount _⟩

/-- A name that a filter text would read as a comparison, an open quote and an `OR`. -/
def knotted : String := ">\"\\(or) x"

/-- A ledger with debits on two categories, one of them with a knotted name. -/
def knottedLedger : Ledger where
  transactions := [⟨⟨none, ⟨2024, 3, 5, by decide⟩, none, "rope", -40, some 7⟩, 1⟩,
    ⟨⟨none, ⟨2024, 3, 6, by decide⟩, none, "bread", -20, some 8⟩, 2⟩]
  tagMap := .empty
  catalog := .ofRecords [⟨7, knotted, 0, none⟩, ⟨8, "Food", 1, none⟩] [] []
  offsetsByDebit := .empty
  scope := .all

theorem onlyBearer_knotted : knottedLedger.catalog.OnlyBearer 7 knotted where
  named := by decide
  notEmpty := by decide
  alone := by
    intro i other hother hsame
    obtain ⟨e, hfind, rfl⟩ := Option.map_eq_some_iff.1 hother
    have hi : e.1 = i := by simpa using List.find?_some hfind
    have hmem : e ∈ [(7, Category.mk 7 knotted 0 none), (8, ⟨8, "Food", 1, none⟩)] :=
      List.mem_of_find?_eq_some hfind
    simp only [List.mem_cons, List.not_mem_nil, or_false] at hmem
    rcases hmem with rfl | rfl
    · exact hi.symm
    · have hdiffers : Text.sameLetters "Food" knotted = false := by decide
      exact absurd hsame (Bool.eq_false_iff.1 hdiffers)

/-- The name of the category is quoted in the filter. The budget has the amount of the target by an
override. -/
theorem budgetLine_agrees_targetLine_knotted :
    (Filter.ofFieldText .category knotted).canonical = "cat:\">\\\"\\\\(or) x\"" ∧
    ∃ lines line,
      knottedLedger.budgetLines [⟨1, 7, 100⟩] [⟨1, "2024-03", 30⟩] " 2024-03" = .ok lines ∧
      knottedLedger.targetLine
        (.ofRecords SavedFilter.id [⟨5, "Knots", "cat:\">\\\"\\\\(or) x\""⟩]) []
        ⟨2024, 3, 31, by decide⟩ ⟨2, "Rope", 5, .monthly, 30⟩ = .ok line ∧
      knottedLedger.budgetLine [⟨1, "2024-03", 30⟩] ⟨.monthly, 2024, 3⟩ ⟨1, 7, 100⟩ ∈ lines ∧
      (knottedLedger.budgetLine [⟨1, "2024-03", 30⟩] ⟨.monthly, 2024, 3⟩ ⟨1, 7, 100⟩).balance.Agrees
        line.balance := by
  have hagree := budgetLine_agrees_targetLine knottedLedger
    (.ofRecords SavedFilter.id [⟨5, "Knots", "cat:\">\\\"\\\\(or) x\""⟩])
    [⟨1, 7, 100⟩] [⟨1, "2024-03", 30⟩] [⟨2, "Rope", 5, .monthly, 30⟩] []
    ⟨2024, 3, 31, by decide⟩ onlyBearer_knotted (by decide)
    List.mem_cons_self rfl List.mem_cons_self rfl rfl (by decide) (by decide)
  obtain ⟨lines, line, hlines, hmem, hline, -, -, hbalance⟩ := hagree.2 " 2024-03" (by decide)
  exact ⟨by decide, lines, line, hlines, hline, hmem, hbalance⟩

end Ledger

end Coffer
