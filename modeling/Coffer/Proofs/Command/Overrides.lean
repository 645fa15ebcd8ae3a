/-
**An amount that is set for a period counts for exactly that period.**

The command reads the key of the period, in whatever form it is written, and checks that the target
has periods of that length.  What it writes it writes under the canonical key.  A report looks an
amount up under the canonical key of the period that holds the day, so it finds the new amount on
exactly the days of the period that was meant.

Main results:

* `Coffer.Command.outcome_overrideTarget_eq_ok_iff`,
  `Coffer.Command.outcome_setBudget_month_eq_ok_iff` — when a command that sets an amount is
  accepted, and what it writes;
* `Coffer.Command.override_takes_effect` — **the amount counts for its target or budget on the days
  of its period, and nothing else in any report is another.**
-/

import Coffer.Proofs.Calendar.Keys
import Coffer.Proofs.Command.Lookups
import Coffer.Proofs.Store.Overrides
import Coffer.Proofs.Store.Permanence

set_option autoImplicit false

namespace Coffer

/-! ### Lines and what they are about -/

namespace Ledger

variable {l : Ledger} {savedFilters : Index SavedFilter} {day : Date}

/-- A line of the report on targets is about a target, in the period of its length that holds the
day. -/
theorem exists_of_mem_lines_targetReport {overrides : List TargetOverride} {gs : List Target}
    {line : TargetLine} (hline : line ∈ (l.targetReport savedFilters overrides day gs).lines) :
    ∃ g ∈ gs, line.target = g.id ∧ line.period = Period.containing g.period day := by
  rw [lines_targetReport, List.mem_flatMap] at hline
  obtain ⟨g, hg, hline⟩ := hline
  refine ⟨g, hg, ?_⟩
  rw [targetReport_cons] at hline
  cases hbound : g.boundFilter savedFilters with
  | ok f =>
      rw [targetLine_eq_ok hbound] at hline
      cases List.mem_singleton.1 hline
      exact ⟨rfl, rfl⟩
  | error e =>
      rw [targetLine_eq_error hbound] at hline
      cases hline

/-- A line of the report on budgets is about a budget, in the month that is asked for. -/
theorem exists_of_mem_budgetLines {overrides : List BudgetOverride} {budgets : List Budget}
    {month : String}
    {lines : List BudgetLine} (h : l.budgetLines budgets overrides month = .ok lines) :
    ∃ p, Period.ofMonthKey month = .ok p ∧ ∀ line ∈ lines,
      ∃ b ∈ budgets, line.budget = b.id ∧ line.category = b.category ∧ line.month = p.key := by
  rw [budgetLines_eq] at h
  obtain ⟨p, hp, rfl⟩ := Except.of_map_eq_ok h
  refine ⟨p, hp, fun line hline => ?_⟩
  obtain ⟨b, hb, rfl⟩ := List.mem_map.1 hline
  exact ⟨b, List.mem_mergeSort.1 hb, rfl, rfl, rfl⟩

end Ledger

/-! ### An amount that counts -/

namespace Snapshot

/-- **An amount counts for a target on the days of a period:** its line says so for each of these
days, and nothing else in any report is another. -/
structure CountsForTarget (n n' : Snapshot) (id : Int) (p : Period) (amount : Float) : Prop where
  target : ∃ g ∈ n.targets, g.id = id ∧ g.period = p.kind
  lines : ∀ scope day, (n'.targetReport scope day).lines =
    (n.targetReport scope day).lines.map fun line =>
      if line.target = id ∧ p.holds day = true then line.overriddenBy amount else line
  failures : ∀ scope day, (n'.targetReport scope day).failures = (n.targetReport scope day).failures
  budgetLines : ∀ scope month, n'.budgetLines scope month = n.budgetLines scope month

/-- **An amount counts for the budget of a category in a month:** its line says so in the report for
that month, however the key of the month is written, and nothing else in any report is another. -/
structure CountsForBudget (n n' : Snapshot) (category : Int) (p : Period)
    (amount : Float) : Prop where
  budget : ∃ b ∈ n.budgets, b.category = category
  lines : ∀ scope month, n'.budgetLines scope month =
    (n.budgetLines scope month).map fun lines => lines.map fun line =>
      if line.category = category ∧ Period.ofMonthKey month = .ok p then line.overriddenBy amount
      else line
  targetReport : ∀ scope day, n'.targetReport scope day = n.targetReport scope day

variable {n : Snapshot} {p : Period} {key : String} {amount : Float}

/-- An amount that is found under the key of a period of a target counts on the days of the
period. -/
theorem countsForTarget_of_found {os : List TargetOverride} {g : Target} (hg : g ∈ n.targets)
    (hunique : ∀ g' ∈ n.targets, g'.id = g.id → g' = g) (hkey : Period.ofKey key = .ok p)
    (hkind : g.period = p.kind)
    (hfound : ∀ i key, Ledger.targetOverride? os i key =
      if i = g.id ∧ key = p.key then some amount
      else Ledger.targetOverride? n.targetOverrides i key) :
    n.CountsForTarget { n with targetOverrides := os } g.id p amount := by
  have hreport (scope : AccountScope) (day : Date) :
      targetReport { n with targetOverrides := os } scope day = _ :=
    Ledger.targetReport_of_override hfound n.targets
  refine ⟨⟨g, hg, rfl, hkind⟩, fun scope day => ?_,
    fun scope day => (congrArg TargetReport.failures (hreport scope day)).trans rfl,
    fun scope month => rfl⟩
  refine (congrArg TargetReport.lines (hreport scope day)).trans
    (List.map_congr_left fun line hline => ?_)
  -- the line of the target is for the period of its length, which has the key if it is the period
  obtain ⟨g', hg', htarget, hperiod⟩ := Ledger.exists_of_mem_lines_targetReport hline
  have hcondition : (line.target = g.id ∧ line.period.key = p.key) ↔
      line.target = g.id ∧ p.holds day = true := by
    refine and_congr_right fun hline => ?_
    rw [hunique g' hg' (htarget.symm.trans hline)] at hperiod
    rw [hperiod, hkind]
    exact Period.key_containing_eq_iff_holds hkey day
  simp only [hcondition]

/-- An amount that is found under the key of a month for the budget of a category counts in this
month. -/
theorem countsForBudget_of_found {os : List BudgetOverride} {b : Budget} (hb : b ∈ n.budgets)
    (hsame : ∀ b' ∈ n.budgets, (b'.id = b.id ↔ b'.category = b.category))
    (hkey : Period.ofMonthKey key = .ok p)
    (hfound : ∀ i key, Ledger.budgetOverride? os i key =
      if i = b.id ∧ key = p.key then some amount
      else Ledger.budgetOverride? n.budgetOverrides i key) :
    n.CountsForBudget { n with budgetOverrides := os } b.category p amount := by
  refine ⟨⟨b, hb, rfl⟩, fun scope month => ?_, fun scope day => rfl⟩
  refine (Ledger.budgetLines_of_override hfound n.budgets month).trans ?_
  show (n.budgetLines scope month).map _ = _
  cases hlines : n.budgetLines scope month with
  | error e => rfl
  | ok lines =>
      obtain ⟨p', hkey', habout⟩ := Ledger.exists_of_mem_budgetLines hlines
      refine congrArg Except.ok (List.map_congr_left fun line hline => ?_)
      obtain ⟨b', hb', hid, hof, hmonth⟩ := habout line hline
      -- two texts are keys of one month exactly if the months that are read have one key
      have hcondition : (line.budget = b.id ∧ line.month = p.key) ↔
          line.category = b.category ∧ Period.ofMonthKey month = .ok p := by
        rw [hid, hof, hmonth, hsame b' hb', hkey', Except.ok.injEq]
        exact and_congr_right fun _ =>
          Period.key_eq_key_iff (Period.ofMonthKey_eq_ok_iff.1 hkey').1
            (Period.ofMonthKey_eq_ok_iff.1 hkey).1
      simp only [hcondition]

end Snapshot

namespace Store

variable {s : Store} {n : Snapshot}

theorem targets_of_snapshot (h : s.snapshot = .ok n) : s.listTargets = .ok n.targets := by
  obtain ⟨ts, -, h⟩ := Except.of_bind_eq_ok h
  obtain ⟨gs, hgs, h⟩ := Except.of_bind_eq_ok h
  cases h
  exact hgs

/-- What a snapshot has of budgets and of amounts for one period is listed. -/
theorem budgets_of_snapshot (h : s.snapshot = .ok n) :
    n.budgets = s.listBudgets ∧ n.budgetOverrides = s.listBudgetOverrides ∧
      n.targetOverrides = s.listTargetOverrides := by
  obtain ⟨ts, -, h⟩ := Except.of_bind_eq_ok h
  obtain ⟨gs, -, h⟩ := Except.of_bind_eq_ok h
  cases h
  exact ⟨rfl, rfl, rfl⟩

/-- The ids of targets are told apart in a snapshot if they are in the store. -/
theorem nodup_targets_of_snapshot (hids : s.DistinctIds) (h : s.snapshot = .ok n) :
    (n.targets.map Target.id).Nodup := by
  rw [Except.map_eq_of_mapM_eq_ok (fun r g hread => (of_readTarget_eq_ok hread).1)
    (targets_of_snapshot h)]
  exact ((List.mergeSort_perm _ _).map _).nodup_iff.2 hids.targets

/-- The budget of a category is the only one with its id, and the only one of the category. -/
theorem budget_of_snapshot (hids : s.DistinctIds) (hkeys : s.DistinctKeys)
    (h : s.snapshot = .ok n) {c : Int} {b : Budget} (hb : s.budgetOf? c = some b) :
    b ∈ n.budgets ∧ b.category = c ∧
      ∀ b' ∈ n.budgets, (b'.id = b.id ↔ b'.category = b.category) := by
  have hmem : ∀ b', b' ∈ n.budgets ↔ b' ∈ s.budgets := by
    intro b'
    rw [(budgets_of_snapshot h).1]
    exact (List.mergeSort_perm _ _).mem_iff
  have hthere : b ∈ s.budgets := List.mem_of_find?_eq_some hb
  refine ⟨(hmem b).2 hthere, by simpa using List.find?_some hb, fun b' hb' => ?_⟩
  rw [hmem] at hb'
  constructor
  · intro hid
    rw [List.inj_on_of_nodup_map hids.budgets hb' hthere hid]
  · intro hof
    rw [List.inj_on_of_nodup_map hkeys.budgets hb' hthere hof]

end Store

namespace Command

variable {c : Setting} {w : Bool} {s s' : Store} {amount : Float} {text : String}

/-! ### What is checked -/

/-- When setting an amount for a target is accepted, and what it writes. -/
theorem outcome_overrideTarget_eq_ok_iff {id : Int} {key : String} :
    (∃ text, Steps.outcome ((overrideTarget id key amount).run w) s = (.ok text, s')) ↔
      w = true ∧ ∃ gs g p, s.listTargets = .ok gs ∧ gs.find? (·.id == id) = some g ∧
        Period.ofKey key = .ok p ∧ p.kind = g.period ∧
          s.overrideTarget id p.key amount = .ok s' := by
  constructor
  · rintro ⟨text, h⟩
    obtain ⟨g, s₁, htarget, hrest⟩ := Action.outcome_bind_eq_ok_iff.1 h
    obtain ⟨⟨gs, hgs, hfind⟩, rfl⟩ := outcome_target_eq_ok_iff.1 htarget
    obtain ⟨p, s₂, hread, hchecks⟩ := Action.outcome_bind_eq_ok_iff.1 hrest
    obtain ⟨hkey, rfl⟩ := outcome_readKey_eq_ok_iff.1 hread
    obtain ⟨hkind, hwrites⟩ := Action.outcome_failIf_eq_ok_iff.1 hchecks
    obtain ⟨⟨⟩, s₃, hcarry, hprint⟩ := Action.outcome_bind_eq_ok_iff.1 hwrites
    obtain ⟨hw, hwrite⟩ := Action.outcome_carry_eq_ok_iff.1 hcarry
    obtain ⟨-, rfl⟩ := Action.outcome_pure_eq_ok_iff.1 hprint
    exact ⟨hw, gs, g, p, hgs, hfind, hkey, not_not.1 hkind, hwrite⟩
  · rintro ⟨hw, gs, g, p, hgs, hfind, hkey, hkind, hwrite⟩
    refine Steps.exists_outcome_bind_of_ok (outcome_target_eq_ok_iff.2 ⟨⟨gs, hgs, hfind⟩, rfl⟩) ?_
    refine Steps.exists_outcome_bind_of_ok (outcome_readKey_eq_ok_iff.2 ⟨hkey, rfl⟩) ?_
    refine Exists.imp (fun _ h => Action.outcome_failIf_eq_ok_iff.2 ⟨not_not.2 hkind, h⟩) ?_
    exact Steps.exists_outcome_bind_of_ok (Action.outcome_carry_eq_ok_iff.2 ⟨hw, hwrite⟩) ⟨_, rfl⟩

/-- When setting an amount for a month of a budget is accepted, and what it writes. -/
theorem outcome_setBudget_month_eq_ok_iff {settings : Settings} {name month : String} :
    (∃ text, Steps.outcome ((setBudget settings name amount (some month)).run w) s =
      (.ok text, s')) ↔
      w = true ∧ ∃ category p b, s.categoryNamed? name = some category ∧
        Period.ofMonthKey month = .ok p ∧
        s.budgetOf? category.id = some b ∧ s.overrideBudget b.id p.key amount = .ok s' := by
  constructor
  · rintro ⟨text, h⟩
    obtain ⟨category, s₁, hlook, hrest⟩ := Action.outcome_bind_eq_ok_iff.1 h
    obtain ⟨hcategory, rfl⟩ := outcome_category_eq_ok_iff.1 hlook
    obtain ⟨p, s₂, hread, hfinds⟩ := Action.outcome_bind_eq_ok_iff.1 hrest
    obtain ⟨hkey, rfl⟩ := outcome_readKey_eq_ok_iff.1 hread
    obtain ⟨s₃, s₄, hget, hdemands⟩ := Action.outcome_bind_eq_ok_iff.1 hfinds
    obtain ⟨rfl, rfl⟩ := Action.outcome_get_eq_ok_iff.1 hget
    obtain ⟨b, s₅, hdemand, hwrites⟩ := Action.outcome_bind_eq_ok_iff.1 hdemands
    obtain ⟨hbudget, rfl⟩ := Action.outcome_demand_eq_ok_iff.1 hdemand
    obtain ⟨⟨⟩, s₆, hcarry, hprint⟩ := Action.outcome_bind_eq_ok_iff.1 hwrites
    obtain ⟨hw, hwrite⟩ := Action.outcome_carry_eq_ok_iff.1 hcarry
    obtain ⟨-, rfl⟩ := Action.outcome_pure_eq_ok_iff.1 hprint
    exact ⟨hw, category, p, b, hcategory, hkey, hbudget, hwrite⟩
  · rintro ⟨hw, category, p, b, hcategory, hkey, hbudget, hwrite⟩
    refine Steps.exists_outcome_bind_of_ok (outcome_category_eq_ok_iff.2 ⟨hcategory, rfl⟩) ?_
    refine Steps.exists_outcome_bind_of_ok (outcome_readKey_eq_ok_iff.2 ⟨hkey, rfl⟩) ?_
    refine Exists.imp (fun _ h => Action.outcome_bind_eq_ok_iff.2 ⟨s, s, rfl, h⟩) ?_
    refine Steps.exists_outcome_bind_of_ok (Action.outcome_demand_eq_ok_iff.2 ⟨hbudget, rfl⟩) ?_
    exact Steps.exists_outcome_bind_of_ok (Action.outcome_carry_eq_ok_iff.2 ⟨hw, hwrite⟩) ⟨_, rfl⟩

/-! ### What takes effect -/

/-- What a command that sets an amount for a target changes in the reports. -/
theorem countsForTarget_of_perform {id : Int} {key : String} (hids : s.DistinctIds)
    (hkeys : s.DistinctKeys) (h : perform c (.overrideTarget id key amount) w s = (.ok text, s')) :
    amount.isNaN = false ∧
    ∃ p kept, Period.ofKey key = .ok p ∧ (kept == amount) = true ∧
      ∀ n, s.snapshot = .ok n → ∃ n', s'.snapshot = .ok n' ∧ n.CountsForTarget n' id p kept := by
  obtain ⟨-, gs, g, p, hgs, hfind, hkey, hkind, hwrite⟩ :=
    outcome_overrideTarget_eq_ok_iff.1 ⟨text, h⟩
  obtain ⟨kept, os, hkept, rfl, hfound⟩ :=
    OverrideTable.targets.listing.found?_override hkeys.targetOverrides hwrite
  obtain ⟨hnumber, hequal⟩ := Store.beq_of_keepAmount hkept
  refine ⟨hnumber, p, kept, hkey, hequal, fun n hn => ?_⟩
  -- the target that was found is the one with the id
  have htargets : n.targets = gs := Except.ok.inj ((Store.targets_of_snapshot hn).symm.trans hgs)
  have hg : g ∈ n.targets := htargets ▸ List.mem_of_find?_eq_some hfind
  obtain rfl : g.id = id := by simpa using List.find?_some hfind
  have hunique : ∀ g' ∈ n.targets, g'.id = g.id → g' = g := fun g' hg' hid =>
    List.inj_on_of_nodup_map (Store.nodup_targets_of_snapshot hids hn) hg' hg hid
  obtain ⟨-, hmonths, hperiods⟩ := Store.budgets_of_snapshot hn
  have hlisted : OverrideTable.targets.listing.list s = n.targetOverrides := hperiods.symm
  rw [hlisted] at hfound
  exact ⟨_, Store.snapshot_overrides hn hmonths.symm rfl,
    Snapshot.countsForTarget_of_found hg hunique hkey hkind.symm hfound⟩

/-- What a command that sets an amount for a month of a budget changes in the reports. -/
theorem countsForBudget_of_perform {name month : String} (hids : s.DistinctIds)
    (hkeys : s.DistinctKeys)
    (h : perform c (.setBudget name amount (some month)) w s = (.ok text, s')) :
    amount.isNaN = false ∧
    ∃ category p kept, s.categoryNamed? name = some category ∧ Period.ofMonthKey month = .ok p ∧
      (kept == amount) = true ∧
      ∀ n, s.snapshot = .ok n →
        ∃ n', s'.snapshot = .ok n' ∧ n.CountsForBudget n' category.id p kept := by
  obtain ⟨-, category, p, b, hcategory, hkey, hbudget, hwrite⟩ :=
    outcome_setBudget_month_eq_ok_iff.1 ⟨text, h⟩
  obtain ⟨kept, os, hkept, rfl, hfound⟩ :=
    OverrideTable.budgets.listing.found?_override hkeys.budgetOverrides hwrite
  obtain ⟨hnumber, hequal⟩ := Store.beq_of_keepAmount hkept
  refine ⟨hnumber, category, p, kept, hcategory, hkey, hequal, fun n hn => ?_⟩
  obtain ⟨hb, hof, hsame⟩ := Store.budget_of_snapshot hids hkeys hn hbudget
  obtain ⟨-, hmonths, hperiods⟩ := Store.budgets_of_snapshot hn
  have hlisted : OverrideTable.budgets.listing.list s = n.budgetOverrides := hmonths.symm
  rw [hlisted] at hfound
  rw [← hof]
  exact ⟨_, Store.snapshot_overrides hn rfl hperiods.symm,
    Snapshot.countsForBudget_of_found hb hsame hkey hfound⟩

/-- **An amount that is set for a period takes effect for exactly this period.** Take any store in
which ids and keys are told apart, as its tables demand, and any command that sets an amount for a
target or for a month of a budget, in whatever form the key is written and whatever amounts were set
before.  If the command is accepted, the amount is a number; and afterwards, in every report, the
line of the target on every day of the period, or the line of the budget in the report for the month
under any form of its key, counts that amount and is marked as overridden.  Every other line of
every report is as before, and so are the failures. -/
theorem override_takes_effect (c : Setting) (w : Bool) (amount : Float) (s s' : Store)
    (text : String) (hids : s.DistinctIds) (hkeys : s.DistinctKeys) :
    (∀ id key, perform c (.overrideTarget id key amount) w s = (.ok text, s') →
      amount.isNaN = false ∧
      ∃ p kept, Period.ofKey key = .ok p ∧ (kept == amount) = true ∧
        ∀ n, s.snapshot = .ok n → ∃ n', s'.snapshot = .ok n' ∧ n.CountsForTarget n' id p kept) ∧
    ∀ name month, perform c (.setBudget name amount (some month)) w s = (.ok text, s') →
      amount.isNaN = false ∧
      ∃ category p kept, s.categoryNamed? name = some category ∧ Period.ofMonthKey month = .ok p ∧
        (kept == amount) = true ∧
        ∀ n, s.snapshot = .ok n →
          ∃ n', s'.snapshot = .ok n' ∧ n.CountsForBudget n' category.id p kept := by
  constructor
  · intro id key h
    exact countsForTarget_of_perform hids hkeys h
  · intro name month h
    exact countsForBudget_of_perform hids hkeys h

/-- A store with a quarterly target, for which an amount has been set before, and a budget. -/
def quarterAndMonth : Store :=
  { Store.empty with
    categories := [⟨1, "Food", 0, none⟩]
    filters := [⟨1, "Bread", "bread"⟩]
    budgets := [⟨1, 1, 100⟩]
    targets := [⟨1, "Bread", 1, "quarterly", 100⟩]
    targetOverrides := [⟨1, "2024-Q1", 80⟩] }

/-- The key of the quarter is written with blanks and in lower case, and the amount of the month is
a negative zero. -/
theorem override_takes_effect_quarterAndMonth :
    quarterAndMonth.DistinctIds ∧ quarterAndMonth.DistinctKeys ∧
    (∃ text s' n n' kept,
      perform ⟨⟨false, .standard⟩, .min⟩ (.overrideTarget 1 " 2024-q1 " 60) true
        quarterAndMonth = (.ok text, s') ∧ (kept == 60) = true ∧
      quarterAndMonth.snapshot = .ok n ∧ s'.snapshot = .ok n' ∧
      n.CountsForTarget n' 1 ⟨.quarterly, 2024, 1⟩ kept) ∧
    ∃ text s' n n' kept,
      perform ⟨⟨false, .standard⟩, .min⟩ (.setBudget "FOOD" (-0) (some "2024-03 ")) true
        quarterAndMonth = (.ok text, s') ∧ (kept == -0) = true ∧
      quarterAndMonth.snapshot = .ok n ∧ s'.snapshot = .ok n' ∧
      n.CountsForBudget n' 1 ⟨.monthly, 2024, 3⟩ kept := by
  have hids : quarterAndMonth.DistinctIds := by constructor <;> decide
  have hkeys : quarterAndMonth.DistinctKeys := by constructor <;> decide
  obtain ⟨n, hn⟩ : ∃ n, quarterAndMonth.snapshot = .ok n := by
    refine Store.Sound.exists_snapshot ⟨.nil, nofun, nofun, nofun, fun g hg => ?_⟩
    exact ⟨.quarterly, by rw [List.mem_singleton.1 hg]; rfl⟩
  have htargets : quarterAndMonth.listTargets = .ok [⟨1, "Bread", 1, .quarterly, 100⟩] := by
    have hrow : Store.readTarget ⟨1, "Bread", 1, "quarterly", 100⟩ =
        .ok ⟨1, "Bread", 1, .quarterly, 100⟩ := rfl
    unfold Store.listTargets quarterAndMonth
    rw [List.mergeSort_singleton, List.mapM_cons, hrow]
    rfl
  have hquarter : Period.ofKey " 2024-q1 " = .ok ⟨.quarterly, 2024, 1⟩ := rfl
  have hmonth : Period.ofMonthKey "2024-03 " = .ok ⟨.monthly, 2024, 3⟩ := rfl
  refine ⟨hids, hkeys, ?_, ?_⟩
  · have hwrite : quarterAndMonth.overrideTarget 1 (Period.key ⟨.quarterly, 2024, 1⟩) 60 =
        .ok { quarterAndMonth with targetOverrides := [⟨1, "2024-Q1", 60⟩] } := rfl
    obtain ⟨text, h⟩ := outcome_overrideTarget_eq_ok_iff.2
      ⟨rfl, _, _, _, htargets, rfl, hquarter, rfl, hwrite⟩
    obtain ⟨-, p, kept, hkey, hkept, hreports⟩ :=
      (override_takes_effect ⟨⟨false, .standard⟩, .min⟩ _ _ _ _ _ hids hkeys).1 _ _ h
    obtain ⟨n', hn', hcounts⟩ := hreports n hn
    cases hquarter.symm.trans hkey
    exact ⟨text, _, n, n', kept, h, hkept, hn, hn', hcounts⟩
  · have hwrite : quarterAndMonth.overrideBudget 1 (Period.key ⟨.monthly, 2024, 3⟩) (-0) =
        .ok { quarterAndMonth with budgetOverrides := [⟨1, "2024-03", 0⟩] } := rfl
    have hfood : quarterAndMonth.categoryNamed? "FOOD" = some ⟨1, "Food", 0, none⟩ := rfl
    obtain ⟨text, h⟩ := outcome_setBudget_month_eq_ok_iff.2
      ⟨rfl, _, _, _, hfood, hmonth, rfl, hwrite⟩
    obtain ⟨-, category, p, kept, hcategory, hkey, hkept, hreports⟩ :=
      (override_takes_effect ⟨⟨false, .standard⟩, .min⟩ _ _ _ _ _ hids hkeys).2 _ _ h
    obtain ⟨n', hn', hcounts⟩ := hreports n hn
    cases hmonth.symm.trans hkey
    cases hfood.symm.trans hcategory
    exact ⟨text, _, n, n', kept, h, hkept, hn, hn', hcounts⟩

end Command

end Coffer
