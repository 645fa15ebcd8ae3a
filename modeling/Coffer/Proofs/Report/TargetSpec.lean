/-
**The report on targets, by what its lines and failures say.**

The program goes through the targets one by one, binds the filter of each, finds its period and its
override, and looks through all transactions with a test for the sign, the window, the account and
the filter.  The specification lists each target once, with a line or with a failure, and speaks of
the override that is there and of sums over lists.

What the report says of a target does not depend on the other targets: it is what a report on this
target alone says, and of the saved filters and the overrides only those of the target count for it.

Main definitions:

* `Coffer.Target.Binds`, `Coffer.Target.Lacks` — the filter of a target, or why it has none;
* `Coffer.Ledger.selectedDebits` — the debits of a period that a filter selects, in order;
* `Coffer.Ledger.IsTargetLine` — the line of a target for a day;
* `Coffer.Ledger.IsTargetReport` — a line or a failure for each target, in order.

Main results:

* `Coffer.Ledger.isTargetReport_targetReport` — **the report says what it should, and of each target
  what it would say of this target alone;**
* `Coffer.Ledger.IsTargetReport.unique` — there is no other such report.
-/

import Coffer.Proofs.Filter.Saved
import Coffer.Proofs.Report.BudgetSpec
import Coffer.Report.Target

set_option autoImplicit false

namespace Coffer

/-! ### Filters of targets -/

namespace Target

/-- A target has a filter: the saved filter that it names is there and can be read. -/
abbrev Binds (savedFilters : Index SavedFilter) (g : Target) : Filter → Prop :=
  Filter.Binds savedFilters g.filter

/-- Why a target has no filter: the saved filter that it names is missing or cannot be read. -/
abbrev Lacks (savedFilters : Index SavedFilter) (g : Target) : Error → Prop :=
  Filter.Lacks savedFilters (.noTargetFilter g.filter g.name) (fun _ => .filter) g.filter

variable {savedFilters : Index SavedFilter} {g : Target}

theorem boundFilter_eq_ok_iff {f : Filter} :
    g.boundFilter savedFilters = .ok f ↔ g.Binds savedFilters f := Filter.ofSaved_eq_ok_iff

theorem boundFilter_eq_error_iff {e : Error} :
    g.boundFilter savedFilters = .error e ↔ g.Lacks savedFilters e := Filter.ofSaved_eq_error_iff

end Target

namespace Ledger

variable {l : Ledger} {savedFilters : Index SavedFilter} {overrides : List TargetOverride}
  {day : Date}
  {g : Target} {f : Filter}

/-! ### What a report should say -/

/-- The debits of a period that a filter selects by what they are, their names and their tags, in
the accounts that are looked at. -/
def selectedDebits (l : Ledger) (p : Period) (f : Filter) : List Transaction :=
  l.transactions.filter fun t =>
    decide (t.amount < 0 ∧ l.scope.holds t = true ∧ (p.start ≤ t.date ∧ t.date < p.stop) ∧
      f.selects (l.catalog.view t (l.tagMap.tagsOf t.id)) = true)

/-- **The line of a target with a filter,** for the period of its length that holds a day. -/
structure IsTargetLine (l : Ledger) (overrides : List TargetOverride) (day : Date) (g : Target)
    (f : Filter) (line : TargetLine) : Prop where
  target : line.target = g.id ∧ line.name = g.name
  period : line.period = Period.containing g.period day
  overridden : ∀ o ∈ overrides, o.target = g.id → o.period = line.period.key →
    line.balance.budgeted = o.amount ∧ line.balance.overridden = true
  base : (∀ o ∈ overrides, o.target = g.id → o.period ≠ line.period.key) →
    line.balance.budgeted = g.amount ∧ line.balance.overridden = false
  spent : line.balance.spent =
    total ((l.selectedDebits line.period f).map fun t => t.amount.abs)
  offsets : line.balance.offsets =
    total ((l.selectedDebits line.period f).filterMap fun t => l.offsetsByDebit.get? t.id)
  netSpent : line.balance.netSpent = line.balance.spent - line.balance.offsets
  remaining : line.balance.remaining = line.balance.budgeted - line.balance.netSpent
  isOver : line.balance.isOver = true ↔ line.balance.remaining < 0

/-- **The report on a list of targets:** each has a line or is a failure, and both come in the order
of the targets. -/
inductive IsTargetReport (l : Ledger) (savedFilters : Index SavedFilter)
    (overrides : List TargetOverride) (day : Date) :
    List Target → List TargetLine → List TargetFailure → Prop
  | nil : IsTargetReport l savedFilters overrides day [] [] []
  | line {g : Target} {f : Filter} {line : TargetLine} {gs : List Target} {lines : List TargetLine}
      {failures : List TargetFailure} :
      g.Binds savedFilters f → l.IsTargetLine overrides day g f line →
      IsTargetReport l savedFilters overrides day gs lines failures →
      IsTargetReport l savedFilters overrides day (g :: gs) (line :: lines) failures
  | failure {g : Target} {e : Error} {gs : List Target} {lines : List TargetLine}
      {failures : List TargetFailure} : g.Lacks savedFilters e →
      IsTargetReport l savedFilters overrides day gs lines failures →
      IsTargetReport l savedFilters overrides day (g :: gs) lines (⟨g.id, g.name, e⟩ :: failures)

/-! ### Overrides -/

/-- No two overrides are for one target and one period. -/
def NoTargetDoubles (overrides : List TargetOverride) : Prop :=
  (overrides.map fun o => (o.target, o.period)).Nodup

instance (overrides : List TargetOverride) : Decidable (NoTargetDoubles overrides) :=
  inferInstanceAs (Decidable (List.Nodup _))

/-- An override that is there is the one that is found. -/
theorem targetOverride?_eq_some (hsingle : NoTargetDoubles overrides) {o : TargetOverride}
    (ho : o ∈ overrides) : targetOverride? overrides o.target o.period = some o.amount := by
  unfold targetOverride?
  cases hfind : overrides.find? fun o' => o'.target == o.target && o'.period == o.period with
  | none =>
      have := List.find?_eq_none.1 hfind o ho
      simp at this
  | some o' =>
      have hmatch := List.find?_some hfind
      simp only [Bool.and_eq_true, beq_iff_eq] at hmatch
      have hsame : o' = o :=
        List.inj_on_of_nodup_map hsingle (List.mem_of_find?_eq_some hfind) ho
          (Prod.ext hmatch.1 hmatch.2)
      rw [hsame]
      rfl

theorem targetOverride?_eq_none {target : Int} {period : String}
    (h : ∀ o ∈ overrides, o.target = target → o.period ≠ period) :
    targetOverride? overrides target period = none := by
  unfold targetOverride?
  rw [Option.map_eq_none_iff, List.find?_eq_none]
  intro o ho hmatch
  simp only [Bool.and_eq_true, beq_iff_eq] at hmatch
  exact h o ho hmatch.1 hmatch.2

/-- Only the overrides of a target are looked at for it. -/
theorem targetOverride?_filter (overrides : List TargetOverride) (target : Int) (period : String) :
    targetOverride? (overrides.filter fun o => o.target == target) target period =
      targetOverride? overrides target period := by
  unfold targetOverride?
  rw [List.find?_filter]
  refine congrArg (Option.map _) (congrArg (List.find? · overrides) (funext fun o => ?_))
  exact Bool.eq_iff_iff.2 (by simp)

/-! ### Lines -/

/-- The line of a target whose filter can be read. -/
theorem targetLine_eq_ok (hbound : g.boundFilter savedFilters = .ok f)
    (overrides : List TargetOverride) (day : Date) :
    l.targetLine savedFilters overrides day g =
      .ok ⟨g.id, g.name, Period.containing g.period day,
        Balance.of g.amount (targetOverride? overrides g.id (Period.containing g.period day).key)
          (l.spending (Period.containing g.period day) fun t => f.selects (l.view t))⟩ := by
  unfold targetLine
  rw [hbound]
  rfl

/-- A target whose filter cannot be read has no line, for the same reason. -/
theorem targetLine_eq_error {e : Error} (hbound : g.boundFilter savedFilters = .error e)
    (overrides : List TargetOverride) (day : Date) :
    l.targetLine savedFilters overrides day g = .error e := by
  unfold targetLine
  rw [hbound]
  rfl

theorem filter_countsIn_eq_selectedDebits (p : Period) (f : Filter) :
    (l.transactions.filter fun t => l.countsIn p t && f.selects (l.view t)) =
      l.selectedDebits p f := by
  refine List.filter_congr fun t _ => Bool.eq_iff_iff.2 ?_
  simp only [countsIn, view, Posting.isDebit, Bool.and_eq_true, decide_eq_true_eq,
    Period.holds_eq_true_iff]
  constructor
  · rintro ⟨⟨⟨hdebit, hdate⟩, hscope⟩, hselects⟩
    exact ⟨hdebit, hscope, hdate, hselects⟩
  · rintro ⟨hdebit, hscope, hdate, hselects⟩
    exact ⟨⟨⟨hdebit, hdate⟩, hscope⟩, hselects⟩

/-- What a filter selects in a period, in sums. -/
theorem spending_selects (p : Period) (f : Filter) :
    l.spending p (fun t => f.selects (l.view t)) =
      ⟨total ((l.selectedDebits p f).map fun t => t.amount.abs),
        total ((l.selectedDebits p f).filterMap fun t => l.offsetsByDebit.get? t.id)⟩ := by
  rw [spending, filter_countsIn_eq_selectedDebits, Spending.ofDebits_eq]

/-- **A target with a filter has the line that it should have.** -/
theorem exists_isTargetLine (hsingle : NoTargetDoubles overrides) (hbinds : g.Binds savedFilters f)
    (day : Date) : ∃ line, l.targetLine savedFilters overrides day g = .ok line ∧
      l.IsTargetLine overrides day g f line := by
  have hsums := spending_selects (l := l) (Period.containing g.period day) f
  refine ⟨_, targetLine_eq_ok (Target.boundFilter_eq_ok_iff.2 hbinds) overrides day, ?_⟩
  exact
    { target := ⟨rfl, rfl⟩
      period := rfl
      overridden := by
        intro o ho htarget hkey
        simp only at hkey
        simp [Balance.of, ← htarget, ← hkey, targetOverride?_eq_some hsingle ho]
      base := by
        intro h
        simp [Balance.of, targetOverride?_eq_none h]
      spent := congrArg Spending.spent hsums
      offsets := congrArg Spending.offsets hsums
      netSpent := rfl
      remaining := rfl
      isOver := decide_eq_true_iff }

/-- The line of a target looks only at its own saved filter and at its own overrides. -/
theorem targetLine_congr {savedFilters' : Index SavedFilter} {overrides' : List TargetOverride}
    (hsaved : savedFilters'.get? g.filter = savedFilters.get? g.filter)
    (hoverrides : overrides'.filter (fun o => o.target == g.id) =
      overrides.filter fun o => o.target == g.id) :
    l.targetLine savedFilters' overrides' day g = l.targetLine savedFilters overrides day g := by
  have hbound : g.boundFilter savedFilters' = g.boundFilter savedFilters := by
    unfold Target.boundFilter Filter.ofSaved
    rw [hsaved]
  have hlookup : ∀ key,
      targetOverride? overrides' g.id key = targetOverride? overrides g.id key := by
    intro key
    rw [← targetOverride?_filter overrides', hoverrides, targetOverride?_filter]
  unfold targetLine
  simp only [hbound, hlookup]

/-! ### The report -/

/-- A report puts a target in front of what it says of the targets behind it. -/
theorem targetReport_cons (g : Target) (gs : List Target) :
    l.targetReport savedFilters overrides day (g :: gs) =
      addTarget g (l.targetLine savedFilters overrides day g)
        (l.targetReport savedFilters overrides day gs) := rfl

theorem lines_addTarget (g : Target) (line : Except Error TargetLine) (r : TargetReport) :
    (addTarget g line r).lines = (addTarget g line ⟨[], []⟩).lines ++ r.lines := by
  cases line <;> rfl

theorem failures_addTarget (g : Target) (line : Except Error TargetLine) (r : TargetReport) :
    (addTarget g line r).failures = (addTarget g line ⟨[], []⟩).failures ++ r.failures := by
  cases line <;> rfl

/-- The lines of a report are those of the reports on its targets one by one. -/
theorem lines_targetReport (gs : List Target) :
    (l.targetReport savedFilters overrides day gs).lines =
      gs.flatMap fun g => (l.targetReport savedFilters overrides day [g]).lines := by
  induction gs with
  | nil => rfl
  | cons g gs ih => rw [targetReport_cons, lines_addTarget, ih]; rfl

/-- The failures of a report are those of the reports on its targets one by one. -/
theorem failures_targetReport (gs : List Target) :
    (l.targetReport savedFilters overrides day gs).failures =
      gs.flatMap fun g => (l.targetReport savedFilters overrides day [g]).failures := by
  induction gs with
  | nil => rfl
  | cons g gs ih => rw [targetReport_cons, failures_addTarget, ih]; rfl

/-- The report has the line of each target that has one. -/
theorem mem_lines_targetReport {line : TargetLine} {targets : List Target} (hg : g ∈ targets)
    (hline : l.targetLine savedFilters overrides day g = .ok line) :
    line ∈ (l.targetReport savedFilters overrides day targets).lines := by
  rw [lines_targetReport, List.mem_flatMap]
  exact ⟨g, hg, by rw [targetReport_cons, hline]; exact List.mem_cons_self⟩

/-- The report has the failure of each target that has no line. -/
theorem mem_failures_targetReport {e : Error} {targets : List Target} (hg : g ∈ targets)
    (hline : l.targetLine savedFilters overrides day g = .error e) :
    ⟨g.id, g.name, e⟩ ∈ (l.targetReport savedFilters overrides day targets).failures := by
  rw [failures_targetReport, List.mem_flatMap]
  exact ⟨g, hg, by rw [targetReport_cons, hline]; exact List.mem_cons_self⟩

/-- Every target is in the lines or in the failures, and in one of them only. -/
theorem IsTargetReport.of_targetReport (hsingle : NoTargetDoubles overrides)
    (targets : List Target) :
    l.IsTargetReport savedFilters overrides day targets
      (l.targetReport savedFilters overrides day targets).lines
      (l.targetReport savedFilters overrides day targets).failures := by
  induction targets with
  | nil => exact .nil
  | cons g gs ih =>
      rw [targetReport_cons]
      cases hbound : g.boundFilter savedFilters with
      | ok f =>
          have hbinds := Target.boundFilter_eq_ok_iff.1 hbound
          obtain ⟨line, hline, hspec⟩ := exists_isTargetLine (l := l) hsingle hbinds day
          rw [hline]
          exact .line hbinds hspec ih
      | error e =>
          rw [targetLine_eq_error hbound]
          exact .failure (Target.boundFilter_eq_error_iff.1 hbound) ih

/-- **The report on targets.** Each target has exactly one line or one failure, both in the order of
the targets; it is a failure exactly if it has no filter that can be read.  Whatever the other
targets are, the report says of each target what the report on it alone says, and that changes with
its own saved filter and its own overrides only. -/
theorem isTargetReport_targetReport (l : Ledger) (savedFilters : Index SavedFilter)
    (overrides : List TargetOverride) (day : Date) (targets : List Target)
    (hsingle : NoTargetDoubles overrides) :
    l.IsTargetReport savedFilters overrides day targets
      (l.targetReport savedFilters overrides day targets).lines
      (l.targetReport savedFilters overrides day targets).failures ∧
    (l.targetReport savedFilters overrides day targets).lines =
      targets.flatMap (fun g => (l.targetReport savedFilters overrides day [g]).lines) ∧
    (l.targetReport savedFilters overrides day targets).failures =
      targets.flatMap (fun g => (l.targetReport savedFilters overrides day [g]).failures) ∧
    ∀ (g : Target) (savedFilters' : Index SavedFilter) (overrides' : List TargetOverride),
      savedFilters'.get? g.filter = savedFilters.get? g.filter →
      overrides'.filter (fun o => o.target == g.id) = overrides.filter (fun o => o.target == g.id) →
      l.targetReport savedFilters' overrides' day [g] =
        l.targetReport savedFilters overrides day [g] := by
  refine ⟨.of_targetReport hsingle targets, lines_targetReport targets,
    failures_targetReport targets, ?_⟩
  intro g savedFilters' overrides' hsaved hoverrides
  rw [targetReport_cons, targetReport_cons, targetLine_congr hsaved hoverrides]
  rfl

/-- A target that works, one whose filter cannot be read, one whose filter is gone, and a second one
that works. -/
def fourTargets : List Target :=
  [⟨1, "Bread", 1, .quarterly, 100⟩, ⟨2, "Broken", 2, .monthly, 10⟩, ⟨3, "Gone", 9, .annual, 10⟩,
    ⟨4, "Everything", 3, .annual, 500⟩]

/-- The filters of three of them. -/
def threeFilters : Index SavedFilter :=
  .ofRecords SavedFilter.id [⟨1, "Bread", "bread"⟩, ⟨2, "Broken", "(bread"⟩, ⟨3, "Old", "-shoes"⟩]

/-- The two targets that work have lines, the other two do not hide them. -/
theorem isTargetReport_fourTargets :
    NoTargetDoubles [⟨1, "2024-Q1", 80⟩, ⟨1, "2024-Q2", 10⟩, ⟨4, "2023", 1⟩] ∧
    ∃ lines failures,
      twoMonths.IsTargetReport threeFilters [⟨1, "2024-Q1", 80⟩, ⟨1, "2024-Q2", 10⟩, ⟨4, "2023", 1⟩]
        ⟨2024, 3, 9, by decide⟩ fourTargets lines failures ∧
      lines.map TargetLine.target = [1, 4] ∧ failures.map TargetFailure.target = [2, 3] := by
  have hreport := isTargetReport_targetReport twoMonths threeFilters
    [⟨1, "2024-Q1", 80⟩, ⟨1, "2024-Q2", 10⟩, ⟨4, "2023", 1⟩]
      ⟨2024, 3, 9, by decide⟩ fourTargets (by decide)
  exact ⟨by decide, _, _, hreport.1, by decide, by decide⟩

/-! ### There is no other report -/

/-- The amount of a target that counts in a period, and whether it is overridden, are told by its
overrides. -/
theorem IsTargetLine.unique {line line' : TargetLine} (h : l.IsTargetLine overrides day g f line)
    (h' : l.IsTargetLine overrides day g f line') : line = line' := by
  have hperiod : line'.period = line.period := h'.period.trans h.period.symm
  have hamount : line.balance.budgeted = line'.balance.budgeted ∧
      line.balance.overridden = line'.balance.overridden := by
    by_cases hoverride : ∃ o ∈ overrides, o.target = g.id ∧ o.period = line.period.key
    · obtain ⟨o, ho, htarget, hkey⟩ := hoverride
      have hthis := h.overridden o ho htarget hkey
      have hother := h'.overridden o ho htarget (hperiod ▸ hkey)
      exact ⟨hthis.1.trans hother.1.symm, hthis.2.trans hother.2.symm⟩
    · have hnone : ∀ o ∈ overrides, o.target = g.id → o.period ≠ line.period.key :=
        fun o ho htarget hkey => hoverride ⟨o, ho, htarget, hkey⟩
      have hthis := h.base hnone
      have hother := h'.base (hperiod ▸ hnone)
      exact ⟨hthis.1.trans hother.1.symm, hthis.2.trans hother.2.symm⟩
  have hspent := h.spent.trans (hperiod ▸ h'.spent.symm)
  have hoffsets := h.offsets.trans (hperiod ▸ h'.offsets.symm)
  obtain ⟨target, name, period, budgeted, overridden, spent, offsets⟩ := line
  obtain ⟨target', name', period', budgeted', overridden', spent', offsets'⟩ := line'
  simp only [TargetLine.mk.injEq, Balance.mk.injEq]
  exact ⟨h.target.1.trans h'.target.1.symm, h.target.2.trans h'.target.2.symm, hperiod.symm,
    hamount.1, hamount.2, hspent, hoffsets⟩

/-- **There is no other report.** -/
theorem IsTargetReport.unique {targets : List Target} {lines lines' : List TargetLine}
    {failures failures' : List TargetFailure}
    (h : l.IsTargetReport savedFilters overrides day targets lines failures)
    (h' : l.IsTargetReport savedFilters overrides day targets lines' failures') :
    lines = lines' ∧ failures = failures' := by
  induction h generalizing lines' failures' with
  | nil => cases h'; exact ⟨rfl, rfl⟩
  | line hbinds hline _ ih =>
      cases h' with
      | line hbinds' hline' hrest =>
          obtain rfl := hbinds.unique hbinds'
          obtain ⟨rfl, rfl⟩ := ih hrest
          exact ⟨by rw [hline.unique hline'], rfl⟩
      | failure hlacks _ => exact absurd hlacks hbinds.not_lacks
  | failure hlacks _ ih =>
      cases h' with
      | line hbinds' _ _ => exact absurd hlacks hbinds'.not_lacks
      | failure hlacks' hrest =>
          obtain rfl := hlacks.unique hlacks'
          obtain ⟨rfl, rfl⟩ := ih hrest
          exact ⟨rfl, rfl⟩

end Ledger

end Coffer
