/-
**Rules, targets and the search select the same transactions.**

A saved filter is used in three places.  Rules look at the transactions in the accounts that are
looked at and count those that the filter selects.  Targets look through all transactions, with a
test for the sign, the window, the account and the filter at once.  The search reads the text so
that it never fails, and lists what it finds.  Where the text can be read, all three select the same
transactions in the same order; where it cannot, rules and targets fail, and the search looks for
the text itself.

Main definitions:

* `Coffer.Snapshot.foundDebits` — the debits of a period among the transactions that a text finds;
* `Coffer.Snapshot.CountsFound`, `Coffer.Snapshot.SpendsFound` — a rule counts and a target sums up
  what a text finds;
* `Coffer.Snapshot.RuleFails`, `Coffer.Snapshot.TargetFails` — a rule or target is a failure and
  nothing else.

Main results:

* `Coffer.Filter.parseSearch_of_parseBound`, `Coffer.Filter.parseSearch_of_parseBound_error` — how a
  text is read for a search, by how it is read for a rule or target;
* `Coffer.Snapshot.selections_agree` — **rules, targets and the search agree on every saved
  filter.**
-/

import Coffer.Proofs.Filter.RoundTrip
import Coffer.Proofs.Report.TargetSpec
import Coffer.Proofs.Store.Applying

set_option autoImplicit false

namespace Coffer

/-! ### One text, read in two ways -/

namespace Filter

variable {text : String}

/-- A text that rules and targets can read is read as the same filter for a search. -/
theorem parseSearch_of_parseBound {f : Filter} (h : parseBound text = .ok f) :
    parseSearch text = some f := by
  unfold parseSearch
  rw [parse_of_parseBound h]

/-- A text that rules and targets cannot read is itself searched for.  A text of blanks is one of
these; searching for it is searching without a filter. -/
theorem parseSearch_of_parseBound_error {e : FilterError} (h : parseBound text = .error e) :
    parseSearch text = wholeText text := by
  unfold parseBound at h
  unfold parseSearch
  split at h
  · cases h
  · next hparse =>
      have htrim := Text.trimChars_eq_nil_iff.2 (isBlank_of_parse_eq_none hparse)
      rw [hparse, wholeText, htrim]
  · next hparse => rw [hparse]

end Filter

/-! ### Lists that name everything once -/

/-- In two lists that name every id once between them, a record is the only one with its id. -/
theorem only_of_listed {α β : Type} {key : α → Int} {key' : β → Int} {xs : List α} {ys : List β}
    {ids : List Int} (hlisted : (xs.map key ++ ys.map key').Perm ids) (hids : ids.Nodup) {x : α}
    (hx : x ∈ xs) : (∀ x' ∈ xs, key x' = key x → x' = x) ∧ ∀ y ∈ ys, key' y ≠ key x := by
  obtain ⟨hxs, -, hapart⟩ := List.nodup_append.1 (hlisted.nodup_iff.2 hids)
  constructor
  · intro x' hx' hkey
    exact List.inj_on_of_nodup_map hxs hx' hx hkey
  · intro y hy hkey
    exact hapart _ (List.mem_map_of_mem hx) _ (List.mem_map_of_mem hy) hkey.symm

/-- Every target is listed once in a report. -/
theorem Ledger.listed_targetReport (l : Ledger) (savedFilters : Index SavedFilter)
    (overrides : List TargetOverride) (day : Date) (targets : List Target) :
    ((l.targetReport savedFilters overrides day targets).lines.map TargetLine.target ++
      (l.targetReport savedFilters overrides day targets).failures.map TargetFailure.target).Perm
      (targets.map Target.id) := by
  induction targets with
  | nil => exact .nil
  | cons g gs ih =>
      rw [targetReport_cons]
      cases hbound : g.boundFilter savedFilters with
      | ok f =>
          rw [targetLine_eq_ok hbound]
          exact ih.cons _
      | error e =>
          rw [targetLine_eq_error hbound]
          exact List.perm_middle.trans (ih.cons _)

namespace Snapshot

variable {n : Snapshot} {scope : AccountScope} {text : String} {f : Filter} {r : Rule} {g : Target}
  {day : Date}

/-! ### What a text finds -/

/-- The debits of a period among the transactions that a text finds. -/
def foundDebits (n : Snapshot) (scope : AccountScope) (text : String) (p : Period) :
    List Transaction :=
  (n.search scope text).filter fun t => decide (t.amount < 0 ∧ p.start ≤ t.date ∧ t.date < p.stop)

/-- **A rule counts what a text finds,** and is not listed in any other way if ids tell rules
apart. -/
structure CountsFound (n : Snapshot) (scope : AccountScope) (text : String) (r : Rule) : Prop where
  counted : ⟨r.id, r.name, (n.search scope text).length⟩ ∈ (n.plan scope).counts
  only : (n.rules.map (·.id)).Nodup →
    (∀ c ∈ (n.plan scope).counts, c.rule = r.id →
      c = ⟨r.id, r.name, (n.search scope text).length⟩) ∧
    ∀ c ∈ (n.plan scope).failures, c.rule ≠ r.id

/-- **A target sums up what a text finds** for its period that holds a day, and is not listed in any
other way if ids tell targets apart. -/
structure SpendsFound (n : Snapshot) (scope : AccountScope) (text : String) (day : Date)
    (g : Target) : Prop where
  line : ∃ line ∈ (n.targetReport scope day).lines, line.target = g.id ∧ line.name = g.name ∧
    line.period = Period.containing g.period day ∧
    line.balance.spent = total ((n.foundDebits scope text line.period).map fun t => t.amount.abs) ∧
    line.balance.offsets = total ((n.foundDebits scope text line.period).filterMap fun t =>
      (offsetsByDebit n.offsets).get? t.id)
  only : (n.targets.map Target.id).Nodup →
    (∀ line ∈ (n.targetReport scope day).lines, ∀ line' ∈ (n.targetReport scope day).lines,
      line.target = g.id → line'.target = g.id → line' = line) ∧
    ∀ c ∈ (n.targetReport scope day).failures, c.target ≠ g.id

/-- A rule is a failure, and is not counted if ids tell rules apart. -/
structure RuleFails (n : Snapshot) (scope : AccountScope) (r : Rule) (e : BindingError) : Prop where
  failure : ⟨r.id, r.name, e⟩ ∈ (n.plan scope).failures
  only : (n.rules.map (·.id)).Nodup → ∀ c ∈ (n.plan scope).counts, c.rule ≠ r.id

/-- A target is a failure, and has no line if ids tell targets apart. -/
structure TargetFails (n : Snapshot) (scope : AccountScope) (day : Date) (g : Target) (e : Error) :
    Prop where
  failure : ⟨g.id, g.name, e⟩ ∈ (n.targetReport scope day).failures
  only : (n.targets.map Target.id).Nodup →
    ∀ line ∈ (n.targetReport scope day).lines, line.target ≠ g.id

/-- A search for a text that can be read looks for what its filter selects. -/
theorem search_of_parseBound (h : Filter.parseBound text = .ok f) :
    n.search scope text =
      (n.transactions.filter scope.holds).filter fun t => f.selects ((n.problem scope).view t) := by
  unfold search
  rw [Filter.parseSearch_of_parseBound h, List.filter_filter]
  refine List.filter_congr fun t _ => ?_
  rw [Bool.and_comm]
  rfl

/-- The tests of a target, in whatever order, pick the debits of its period from what a search
finds. -/
theorem selectedDebits_eq_foundDebits (h : Filter.parseBound text = .ok f) (p : Period) :
    (n.ledger scope).selectedDebits p f = n.foundDebits scope text p := by
  unfold foundDebits
  rw [search_of_parseBound h, List.filter_filter, List.filter_filter]
  refine List.filter_congr fun t _ => Bool.eq_iff_iff.2 ?_
  simp only [Bool.and_eq_true, decide_eq_true_eq]
  constructor
  · rintro ⟨hdebit, hscope, hdate, hselects⟩
    exact ⟨⟨⟨hdebit, hdate⟩, hselects⟩, hscope⟩
  · rintro ⟨⟨⟨hdebit, hdate⟩, hselects⟩, hscope⟩
    exact ⟨hdebit, hscope, hdate, hselects⟩

/-! ### Rules -/

theorem nodup_enabled (hids : (n.rules.map (·.id)).Nodup) :
    ((n.rules.filter (·.enabled)).map (·.id)).Nodup :=
  hids.sublist (List.filter_sublist.map _)

/-- An enabled rule with a filter counts what the text of the filter finds. -/
theorem countsFound_of_binds (hr : r ∈ n.rules) (henabled : r.enabled = true) {saved : SavedFilter}
    (hsaved : n.savedFilters.get? r.filter = some saved)
    (hparse : Filter.parseBound saved.expression = .ok f) :
    n.CountsFound scope saved.expression r := by
  have hbound : ⟨r, f⟩ ∈ Rules.bind n.savedFilters (Rules.enabledInOrder n.rules) :=
    (Rules.Problem.mem_bind_iff (P := n.problem scope)).2
      ⟨Rules.mem_enabledInOrder_iff.2 ⟨hr, henabled⟩, saved, hsaved, hparse⟩
  have hcounted : ⟨r.id, r.name, (n.search scope saved.expression).length⟩ ∈
      (n.plan scope).counts := by
    rw [search_of_parseBound hparse, ← List.countP_eq_length_filter]
    exact List.mem_map_of_mem hbound
  refine ⟨hcounted, fun hids => ?_⟩
  exact only_of_listed (Rules.Problem.listed_plan (P := n.problem scope)) (nodup_enabled hids)
    hcounted

/-- An enabled rule without a filter is a failure. -/
theorem ruleFails_of_lacks (hr : r ∈ n.rules) (henabled : r.enabled = true) {e : BindingError}
    (hlacks : Rules.Lacks n.savedFilters r e) : n.RuleFails scope r e := by
  have hfailure : ⟨r.id, r.name, e⟩ ∈ (n.plan scope).failures := by
    refine List.mem_filterMap.2 ⟨r, Rules.mem_enabledInOrder_iff.2 ⟨hr, henabled⟩, ?_⟩
    rw [Rules.boundFilter_eq_error_iff.2 hlacks]
  refine ⟨hfailure, fun hids => ?_⟩
  have hlisted := List.perm_append_comm.trans (Rules.Problem.listed_plan (P := n.problem scope))
  exact (only_of_listed hlisted (nodup_enabled hids) hfailure).2

/-! ### Targets -/

/-- A target with a filter sums up what the text of the filter finds. -/
theorem spendsFound_of_binds (hg : g ∈ n.targets) {saved : SavedFilter}
    (hsaved : n.savedFilters.get? g.filter = some saved)
    (hparse : Filter.parseBound saved.expression = .ok f) (day : Date) :
    n.SpendsFound scope saved.expression day g := by
  have hbound := Target.boundFilter_eq_ok_iff.2 ⟨saved, hsaved, hparse⟩
  have hline := Ledger.targetLine_eq_ok (l := n.ledger scope) hbound n.targetOverrides day
  have hmem := Ledger.mem_lines_targetReport hg hline
  have hsums := Ledger.spending_selects (l := n.ledger scope) (Period.containing g.period day) f
  rw [selectedDebits_eq_foundDebits hparse] at hsums
  refine ⟨⟨_, hmem, rfl, rfl, rfl, congrArg Spending.spent hsums,
    congrArg Spending.offsets hsums⟩, fun hids => ?_⟩
  obtain ⟨honly, hapart⟩ := only_of_listed (Ledger.listed_targetReport _ _ _ _ _) hids hmem
  refine ⟨fun line hline line' hline' hid hid' => ?_, hapart⟩
  exact (honly line' hline' hid').trans (honly line hline hid).symm

/-- A target without a filter is a failure. -/
theorem targetFails_of_lacks (hg : g ∈ n.targets) {e : Error} (hlacks : g.Lacks n.savedFilters e)
    (day : Date) : n.TargetFails scope day g e := by
  have hline := Ledger.targetLine_eq_error (l := n.ledger scope)
    (Target.boundFilter_eq_error_iff.2 hlacks) n.targetOverrides day
  have hfailure := Ledger.mem_failures_targetReport hg hline
  refine ⟨hfailure, fun hids => ?_⟩
  have hlisted := List.perm_append_comm.trans (Ledger.listed_targetReport (n.ledger scope)
    n.savedFilters n.targetOverrides day n.targets)
  exact (only_of_listed hlisted hids hfailure).2

/-! ### Agreement -/

/-- **Rules, targets and the search agree on every saved filter.** If its text can be read, every
enabled rule on it counts the transactions that a search for the text finds, and every target on it
sums up, for any day, the debits of its period among them, in their order.  If it cannot be read,
all of these are failures, and the search looks for the text as it stands. -/
theorem selections_agree (n : Snapshot) (scope : AccountScope) {i : Int} {saved : SavedFilter}
    (hsaved : n.savedFilters.get? i = some saved) :
    (∀ f, Filter.parseBound saved.expression = .ok f →
      (∀ r ∈ n.rules, r.enabled = true → r.filter = i → n.CountsFound scope saved.expression r) ∧
      ∀ g ∈ n.targets, g.filter = i → ∀ day, n.SpendsFound scope saved.expression day g) ∧
    ∀ e, Filter.parseBound saved.expression = .error e →
      (∀ r ∈ n.rules, r.enabled = true → r.filter = i →
        n.RuleFails scope r (.badFilter saved.name e)) ∧
      (∀ g ∈ n.targets, g.filter = i → ∀ day, n.TargetFails scope day g (.filter e)) ∧
      n.search scope saved.expression = n.transactions.filter fun t =>
        scope.holds t &&
          Filter.selectsBy (Filter.wholeText saved.expression) ((n.ledger scope).view t) := by
  constructor
  · intro f hparse
    constructor
    · rintro r hr henabled rfl
      exact countsFound_of_binds hr henabled hsaved hparse
    · rintro g hg rfl day
      exact spendsFound_of_binds hg hsaved hparse day
  · intro e hparse
    refine ⟨?_, ?_, ?_⟩
    · rintro r hr henabled rfl
      exact ruleFails_of_lacks hr henabled (.badFilter hsaved hparse)
    · rintro g hg rfl day
      exact targetFails_of_lacks hg (.badFilter hsaved hparse) day
    · unfold search
      rw [Filter.parseSearch_of_parseBound_error hparse]

/-- A rule and a target on a filter that can be read, and a rule and a target on one that cannot. -/
def halfBroken : Snapshot where
  transactions := [⟨⟨none, ⟨2024, 3, 7, by decide⟩, none, "bread", -40, none⟩, 1⟩,
    ⟨⟨none, ⟨2024, 3, 8, by decide⟩, none, "bread sold", 5, none⟩, 2⟩,
    ⟨⟨none, ⟨2024, 4, 9, by decide⟩, none, "(bread", -20, none⟩, 3⟩]
  tagMap := .empty
  catalog := ⟨.empty, .empty, .empty⟩
  savedFilters := .ofRecords SavedFilter.id [⟨1, "Bread", "bread"⟩, ⟨2, "Broken", "(bread"⟩]
  rules := [⟨⟨"bread", 1, none, [5], 0⟩, 1, true⟩, ⟨⟨"broken", 2, none, [5], 1⟩, 2, true⟩]
  budgets := []
  budgetOverrides := []
  targets := [⟨1, "Bread", 1, .monthly, 100⟩, ⟨2, "Broken", 2, .monthly, 10⟩]
  targetOverrides := []
  offsets := [⟨1, 2, 1, 5⟩]

/-- The filter that can be read finds three transactions, of which one is a debit of March; the text
of the other is found in one. -/
theorem selections_agree_halfBroken :
    (halfBroken.search .all "bread").length = 3 ∧
    (halfBroken.foundDebits .all "bread" ⟨.monthly, 2024, 3⟩).map Transaction.id = [1] ∧
    halfBroken.CountsFound .all "bread" ⟨⟨"bread", 1, none, [5], 0⟩, 1, true⟩ ∧
    halfBroken.SpendsFound .all "bread" ⟨2024, 3, 31, by decide⟩ ⟨1, "Bread", 1, .monthly, 100⟩ ∧
    (halfBroken.search .all "(bread").map Transaction.id = [3] ∧
    ∃ e, halfBroken.RuleFails .all ⟨⟨"broken", 2, none, [5], 1⟩, 2, true⟩ (.badFilter "Broken" e) ∧
      halfBroken.TargetFails .all ⟨2024, 3, 31, by decide⟩ ⟨2, "Broken", 2, .monthly, 10⟩
        (.filter e) := by
  have hbreadSaved : halfBroken.savedFilters.get? 1 = some ⟨1, "Bread", "bread"⟩ := rfl
  have hbrokenSaved : halfBroken.savedFilters.get? 2 = some ⟨2, "Broken", "(bread"⟩ := rfl
  have hbread := selections_agree halfBroken .all hbreadSaved
  have hbroken := selections_agree halfBroken .all hbrokenSaved
  have hread : Filter.parseBound "bread" = .ok (.text "bread" .metadata) := rfl
  have hunread : Filter.parseBound "(bread" = .error .unbalancedParens := rfl
  obtain ⟨hrules, htargets⟩ := hbread.1 _ hread
  obtain ⟨hrules', htargets', -⟩ := hbroken.2 _ hunread
  exact ⟨by decide, by decide, hrules _ (by simp [halfBroken]) rfl rfl,
    htargets _ (by simp [halfBroken]) rfl _, by decide, _,
    hrules' _ (by simp [halfBroken]) rfl rfl, htargets' _ (by simp [halfBroken]) rfl _⟩

end Snapshot

end Coffer
