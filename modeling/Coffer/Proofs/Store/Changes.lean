/-
**What operations change.**

Whatever an operation does, it does by changes of one kind: it enters one record, it rewrites one
column of some records, or it deletes the records with one id.  Each change has its conditions,
which the operation has checked.  What every change keeps is kept by every operation, and by every
row of operations.

Main definitions:

* `Coffer.Store.Change` — **one change of the store,** with its conditions;
* `Coffer.Store.Changes` — one change after another.

Main results:

* `Coffer.Store.changes_perform` — an operation changes the store step by step;
* `Coffer.Store.changes_run` — so does every row of operations;
* `Coffer.Store.Changes.keeps` — what every change keeps is kept.
-/

import Coffer.Proofs.Store.Frames
import Mathlib.Logic.Relation

set_option autoImplicit false

namespace Coffer.Store

/-- Whether a transaction carries a tag. -/
def isLinked (s : Store) (transaction tag : Int) : Bool :=
  s.links.any fun l => l.transaction == transaction && l.tag == tag

/-- **One change of the store.** -/
inductive Change (s : Store) : Store → Prop where
  | account (name : String) (hnew : s.accountNamed? name = none) :
      Change s { s with
        accounts := s.accounts ++ [⟨freshId (s.accounts.map Account.id), name⟩] }
  | category (name : String) (sortOrder : Int) (color : Option String)
      (hnew : s.categoryNamed? name = none) :
      Change s { s with categories :=
        s.categories ++ [⟨freshId (s.categories.map Category.id), name, sortOrder, color⟩] }
  | tag (name : String) (color : Option String) (hnew : s.tagNamed? name = none) :
      Change s { s with tags := s.tags ++ [⟨freshId (s.tags.map Tag.id), name, color⟩] }
  | transaction (p : Posting) {column : String} {amount : Float}
      (hamount : keepAmount column p.amount = .ok amount)
      (haccount : ∀ i, p.account = some i → s.hasAccount i = true)
      (hcategory : ∀ i, p.category = some i → s.hasCategory i = true) :
      Change s { s with transactions := s.transactions ++
        [⟨freshId (s.transactions.map TransactionRow.id), p.account, p.date.iso, p.dateRaw,
          p.description, amount, p.category⟩] }
  | categorize (i : Int) (category : Option Int)
      (hcategory : ∀ c, category = some c → s.hasCategory c = true) :
      Change s { s with transactions := s.transactions.map fun t =>
        if t.id = i then { t with category := category } else t }
  | link (i g : Int) (source : TagSource) (hnew : s.isLinked i g = false)
      (htransaction : s.hasTransaction i = true) (htag : s.hasTag g = true) :
      Change s { s with links := s.links ++ [⟨i, g, source.name⟩] }
  | filter (name expression : String) (hnew : ∀ f ∈ s.filters, f.name ≠ name) :
      Change s { s with filters :=
        s.filters ++ [⟨freshId (s.filters.map SavedFilter.id), name, expression⟩] }
  | deleteFilter (i : Int) : Change s { s with filters := s.filters.filter (·.id != i) }
  | rule (d : RuleDraft) (hcategory : ∀ c, d.setCategory = some c → s.hasCategory c = true)
      (htags : ∀ g ∈ d.addTags, s.hasTag g = true) :
      Change s { s with rules := s.rules ++ [{ d with
        addTags := ascending d.addTags, id := freshId (s.rules.map Rule.id), enabled := true }] }
  | enableRule (i : Int) (enabled : Bool) :
      Change s { s with rules := s.rules.map fun r =>
        if r.id = i then { r with enabled := enabled } else r }
  | deleteRule (i : Int) : Change s { s with rules := s.rules.filter (·.id != i) }
  | budget (category : Int) {column : String} {x amount : Float}
      (hamount : keepAmount column x = .ok amount) (hnew : s.budgetOf? category = none)
      (hcategory : s.hasCategory category = true) :
      Change s { s with budgets :=
        s.budgets ++ [⟨freshId (s.budgets.map Budget.id), category, amount⟩] }
  | budgetAmount (category : Int) {column : String} {x amount : Float}
      (hamount : keepAmount column x = .ok amount) :
      Change s { s with budgets := s.budgets.map fun b =>
        if b.category = category then { b with amount := amount } else b }
  | budgetOverride {rows : List BudgetOverride} (hsets : OverrideTable.budgets.Sets s rows) :
      Change s { s with budgetOverrides := rows }
  | target (name : String) (filter : Int) (period : PeriodKind) {column : String}
      {x amount : Float} (hamount : keepAmount column x = .ok amount) :
      Change s { s with targets := s.targets ++
        [⟨freshId (s.targets.map TargetRow.id), name, filter, period.name, amount⟩] }
  | targetOverride {rows : List TargetOverride} (hsets : OverrideTable.targets.Sets s rows) :
      Change s { s with targetOverrides := rows }
  | offset (credit debit : Int) {column : String} {x amount : Float}
      (hamount : keepAmount column x = .ok amount) (hcredit : s.hasTransaction credit = true)
      (hdebit : s.hasTransaction debit = true) :
      Change s { s with offsets :=
        s.offsets ++ [⟨freshId (s.offsets.map CreditOffset.id), credit, debit, amount⟩] }

/-- One change after another. -/
abbrev Changes : Store → Store → Prop := Relation.ReflTransGen Change

variable {s s' : Store}

theorem Change.changes (h : Change s s') : Changes s s' := .single h

/-- **What every change keeps is kept.** -/
theorem Changes.keeps {P : Store → Prop} (hstep : ∀ {s s'}, P s → Change s s' → P s')
    (h : Changes s s') (hs : P s) : P s' := by
  induction h with
  | refl => exact hs
  | tail _ hchange ih => exact hstep ih hchange

/-- What a change does to the amounts of budgets for single months. -/
theorem Change.step_budgets (h : Change s s') : OverrideTable.budgets.Step s s' := by
  cases h with
  | budgetOverride hsets => exact .inr hsets
  | _ => exact .inl rfl

/-- What a change does to the amounts of targets for single periods. -/
theorem Change.step_targets (h : Change s s') : OverrideTable.targets.Step s s' := by
  cases h with
  | targetOverride hsets => exact .inr hsets
  | _ => exact .inl rfl

/-! ### Checks -/

theorem of_demandOpt_eq_ok {isThere : Int → Bool} {i : Option Int} {u : Unit}
    (h : demandOpt isThere i = .ok u) : ∀ j, i = some j → isThere j = true := by
  rintro j rfl
  exact of_demand_eq_ok h

/-! ### Single operations -/

theorem changes_ensureAccount (name : String) (s : Store) :
    Changes s (s.ensureAccount name).2 := by
  unfold ensureAccount
  split
  · exact .refl
  · next hnew => exact (Change.account name hnew).changes

theorem changes_ensureCategory (name : String) (sortOrder : Int) (color : Option String)
    (s : Store) : Changes s (s.ensureCategory name sortOrder color).2 := by
  unfold ensureCategory
  split
  · exact .refl
  · next hnew => exact (Change.category name sortOrder color hnew).changes

theorem changes_ensureTag (name : String) (color : Option String) (s : Store) :
    Changes s (s.ensureTag name color).2 := by
  unfold ensureTag
  split
  · exact .refl
  · next hnew => exact (Change.tag name color hnew).changes

theorem changes_addTransaction {p : Posting} {r : Int × Store} (h : s.addTransaction p = .ok r) :
    Changes s r.2 := by
  obtain ⟨amount, hamount, h⟩ := Except.of_bind_eq_ok h
  obtain ⟨u, haccount, h⟩ := Except.of_bind_eq_ok h
  obtain ⟨u', hcategory, h⟩ := Except.of_bind_eq_ok h
  cases h
  exact (Change.transaction p hamount (of_demandOpt_eq_ok haccount)
    (of_demandOpt_eq_ok hcategory)).changes

theorem changes_categorize {i : Int} {category : Option Int}
    (h : s.categorize i category = .ok s') :
    Changes s s' := by
  unfold categorize at h
  split at h
  · obtain ⟨u, hcategory, h⟩ := Except.of_bind_eq_ok h
    cases h
    exact (Change.categorize i category (of_demandOpt_eq_ok hcategory)).changes
  · cases h
    exact .refl

theorem changes_attachTag {i g : Int} {source : TagSource} (h : s.attachTag i g source = .ok s') :
    Changes s s' := by
  unfold attachTag at h
  split at h
  · cases h
    exact .refl
  · next hnew =>
      obtain ⟨u, htransaction, h⟩ := Except.of_bind_eq_ok h
      obtain ⟨u', htag, h⟩ := Except.of_bind_eq_ok h
      cases h
      exact (Change.link i g source (by simpa [isLinked] using hnew)
        (of_demand_eq_ok htransaction) (of_demand_eq_ok htag)).changes

theorem changes_writeMutation {m : Mutation} (h : s.writeMutation m = .ok s') : Changes s s' := by
  obtain ⟨s₁, hcategory, htags⟩ := of_writeMutation_eq_ok h
  have hs₁ : Changes s s₁ := by
    rcases hcategory with ⟨-, rfl⟩ | ⟨c, -, hset⟩
    · exact .refl
    · exact changes_categorize hset
  exact Except.of_foldlM_eq_ok (P := Changes s)
    (fun hb hstep => hb.trans (changes_attachTag hstep)) hs₁ htags

theorem changes_writeMutations {ms : List Mutation} (h : s.writeMutations ms = .ok s') :
    Changes s s' :=
  Except.of_foldlM_eq_ok (P := Changes s)
    (fun hb hstep => hb.trans (changes_writeMutation hstep)) .refl h

theorem changes_addFilter {name expression : String} {r : Int × Store}
    (h : s.addFilter name expression = .ok r) : Changes s r.2 := by
  unfold addFilter at h
  split at h
  · cases h
  · next hnew =>
      cases h
      exact (Change.filter name expression (by simpa using hnew)).changes

theorem changes_addRule {d : RuleDraft} {r : Int × Store} (h : s.addRule d = .ok r) :
    Changes s r.2 := by
  obtain ⟨u, hcategory, h⟩ := Except.of_bind_eq_ok h
  obtain ⟨u', htags, h⟩ := Except.of_bind_eq_ok h
  cases h
  exact (Change.rule d (of_demandOpt_eq_ok hcategory)
    (List.all_eq_true.1 (of_demand_eq_ok htags))).changes

theorem changes_setBudget {category : Int} {x : Float} {r : Int × Store}
    (h : s.setBudget category x = .ok r) : Changes s r.2 := by
  obtain ⟨amount, hamount, h⟩ := Except.of_bind_eq_ok h
  split at h
  · cases h
    exact (Change.budgetAmount category hamount).changes
  · next hnew =>
      obtain ⟨u, hcategory, h⟩ := Except.of_bind_eq_ok h
      cases h
      exact (Change.budget category hamount hnew (of_demand_eq_ok hcategory)).changes

/-- To set an amount in a table is a change, if to write rows that are so set is one. -/
theorem changes_override {α : Type} {T : OverrideTable α} {key : Int × String} {x : Float}
    (hput : ∀ {rows}, T.Sets s rows → Change s (T.put s rows)) (h : s.override T key x = .ok s') :
    Changes s s' := by
  obtain ⟨rows, hsets, rfl⟩ := OverrideTable.exists_sets_of_override h
  exact (hput hsets).changes

theorem changes_addTarget {name : String} {filter : Int} {period : PeriodKind} {x : Float}
    {r : Int × Store} (h : s.addTarget name filter period x = .ok r) : Changes s r.2 := by
  obtain ⟨amount, hamount, h⟩ := Except.of_bind_eq_ok h
  cases h
  exact (Change.target name filter period hamount).changes

theorem changes_addOffset {credit debit : Int} {x : Float} {r : Int × Store}
    (h : s.addOffset credit debit x = .ok r) : Changes s r.2 := by
  obtain ⟨amount, hamount, h⟩ := Except.of_bind_eq_ok h
  obtain ⟨u, hcredit, h⟩ := Except.of_bind_eq_ok h
  obtain ⟨u', hdebit, h⟩ := Except.of_bind_eq_ok h
  cases h
  exact (Change.offset credit debit hamount (of_demand_eq_ok hcredit)
    (of_demand_eq_ok hdebit)).changes

/-! ### All operations -/

/-- **An operation changes the store step by step.** -/
theorem changes_perform {op : Operation} {a : Answer} (h : s.perform op = .ok (a, s')) :
    Changes s s' := by
  cases op with
  | ensureAccount name => cases h; exact changes_ensureAccount name s
  | ensureCategory name sortOrder color =>
    cases h; exact changes_ensureCategory name sortOrder color s
  | ensureTag name color => cases h; exact changes_ensureTag name color s
  | addTransaction p => exact Except.of_map_eq_ok_pair h fun _ => changes_addTransaction
  | categorize i c => exact Except.of_map_eq_ok_pair h fun _ => changes_categorize
  | attachTag i g source => exact Except.of_map_eq_ok_pair h fun _ => changes_attachTag
  | addFilter name expression => exact Except.of_map_eq_ok_pair h fun _ => changes_addFilter
  | deleteFilter i => cases h; exact (Change.deleteFilter i).changes
  | addRule d => exact Except.of_map_eq_ok_pair h fun _ => changes_addRule
  | enableRule i b => cases h; exact (Change.enableRule i b).changes
  | deleteRule i => cases h; exact (Change.deleteRule i).changes
  | writeMutations ms => exact Except.of_map_eq_ok_pair h fun _ => changes_writeMutations
  | setBudget c x => exact Except.of_map_eq_ok_pair h fun _ => changes_setBudget
  | overrideBudget b month x =>
      exact Except.of_map_eq_ok_pair h fun _ => changes_override .budgetOverride
  | addTarget name f p x => exact Except.of_map_eq_ok_pair h fun _ => changes_addTarget
  | overrideTarget g p x =>
      exact Except.of_map_eq_ok_pair h fun _ => changes_override .targetOverride
  | addOffset c d x => exact Except.of_map_eq_ok_pair h fun _ => changes_addOffset

theorem changes_after (s : Store) (op : Operation) : Changes s (s.after op) := by
  unfold after
  split
  · next h => exact changes_perform h
  · exact .refl

/-- **A row of operations changes the store step by step.** -/
theorem changes_run (s : Store) (ops : List Operation) : Changes s (s.run ops) := by
  induction ops generalizing s with
  | nil => exact .refl
  | cons op rest ih => exact (changes_after s op).trans (ih (s.after op))

end Coffer.Store
