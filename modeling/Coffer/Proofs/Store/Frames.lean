/-
**The tables that an operation writes to.**

An operation writes to one table, or to two if it writes what rules change; all other tables are
after it what they were before.  What is said of one table then concerns only the few operations
that write to it.

Main definitions:

* `Coffer.Table`, `Coffer.Store.table` — the tables by name;
* `Coffer.Operation.tables` — the tables that an operation can write to;
* `Coffer.Store.SameBut` — two stores are the same but for some tables.

Main results:

* `Coffer.Store.sameBut_put` — to write to a table is to leave the others;
* `Coffer.Store.sameBut_perform`, `Coffer.Store.sameBut_after` — **an operation leaves all tables
  but its own.**
-/

import Coffer.Proofs.Store.OverrideTables

set_option autoImplicit false

namespace Coffer

/-- The tables of the store by name. -/
inductive Table where
  | accounts | categories | tags | transactions | links | filters | rules
  | budgets | budgetOverrides | targets | targetOverrides | offsets

/-- The records of a table. -/
def Table.Row : Table → Type
  | .accounts => Account
  | .categories => Category
  | .tags => Tag
  | .transactions => TransactionRow
  | .links => TagLink
  | .filters => SavedFilter
  | .rules => Rule
  | .budgets => Budget
  | .budgetOverrides => BudgetOverride
  | .targets => TargetRow
  | .targetOverrides => TargetOverride
  | .offsets => CreditOffset

/-- The tables that an operation can write to. -/
def Operation.tables : Operation → List Table
  | .ensureAccount _ => [.accounts]
  | .ensureCategory _ _ _ => [.categories]
  | .ensureTag _ _ => [.tags]
  | .addTransaction _ => [.transactions]
  | .categorize _ _ => [.transactions]
  | .attachTag _ _ _ => [.links]
  | .addFilter _ _ => [.filters]
  | .deleteFilter _ => [.filters]
  | .addRule _ => [.rules]
  | .enableRule _ _ => [.rules]
  | .deleteRule _ => [.rules]
  | .writeMutations _ => [.transactions, .links]
  | .setBudget _ _ => [.budgets]
  | .overrideBudget _ _ _ => [.budgetOverrides]
  | .addTarget _ _ _ _ => [.targets]
  | .overrideTarget _ _ _ => [.targetOverrides]
  | .addOffset _ _ _ => [.offsets]

namespace Store

/-- A table of a store. -/
def table (s : Store) : (t : Table) → List t.Row
  | .accounts => s.accounts
  | .categories => s.categories
  | .tags => s.tags
  | .transactions => s.transactions
  | .links => s.links
  | .filters => s.filters
  | .rules => s.rules
  | .budgets => s.budgets
  | .budgetOverrides => s.budgetOverrides
  | .targets => s.targets
  | .targetOverrides => s.targetOverrides
  | .offsets => s.offsets

/-- A store with other records in one table. -/
def put (s : Store) : (t : Table) → List t.Row → Store
  | .accounts, rows => { s with accounts := rows }
  | .categories, rows => { s with categories := rows }
  | .tags, rows => { s with tags := rows }
  | .transactions, rows => { s with transactions := rows }
  | .links, rows => { s with links := rows }
  | .filters, rows => { s with filters := rows }
  | .rules, rows => { s with rules := rows }
  | .budgets, rows => { s with budgets := rows }
  | .budgetOverrides, rows => { s with budgetOverrides := rows }
  | .targets, rows => { s with targets := rows }
  | .targetOverrides, rows => { s with targetOverrides := rows }
  | .offsets, rows => { s with offsets := rows }

/-- **Two stores are the same but for some tables.** -/
def SameBut (ts : List Table) (s s' : Store) : Prop := ∀ t, t ∉ ts → s'.table t = s.table t

variable {s s' : Store} {ts : List Table}

theorem SameBut.refl (ts : List Table) (s : Store) : SameBut ts s s := fun _ _ => rfl

theorem SameBut.trans {s'' : Store} (h : SameBut ts s s') (h' : SameBut ts s' s'') :
    SameBut ts s s'' :=
  fun t ht => (h' t ht).trans (h t ht)

theorem SameBut.mono {us : List Table} (h : SameBut ts s s') (hsub : ts ⊆ us) : SameBut us s s' :=
  fun t ht => h t (mt (@hsub t) ht)

/-- Another table has no records that it did not have. -/
theorem SameBut.of_mem (h : SameBut ts s s') (t : Table) (ht : t ∉ ts) {row : t.Row}
    (hrow : row ∈ s'.table t) : row ∈ s.table t := by
  rwa [← h t ht]

/-- To write to a table is to leave the others. -/
theorem sameBut_put (t : Table) (rows : List t.Row) : SameBut [t] s (s.put t rows) := by
  intro u hu
  have hne : u ≠ t := List.ne_of_not_mem_cons hu
  cases t <;> cases u <;> first | rfl | exact absurd rfl hne

/-! ### Single operations -/

theorem sameBut_ensureAccount (name : String) (s : Store) :
    SameBut [.accounts] s (s.ensureAccount name).2 := by
  unfold ensureAccount
  split
  · exact .refl _ s
  · exact sameBut_put .accounts _

theorem sameBut_ensureCategory (name : String) (sortOrder : Int) (color : Option String)
    (s : Store) :
    SameBut [.categories] s (s.ensureCategory name sortOrder color).2 := by
  unfold ensureCategory
  split
  · exact .refl _ s
  · exact sameBut_put .categories _

theorem sameBut_ensureTag (name : String) (color : Option String) (s : Store) :
    SameBut [.tags] s (s.ensureTag name color).2 := by
  unfold ensureTag
  split
  · exact .refl _ s
  · exact sameBut_put .tags _

theorem sameBut_addTransaction {p : Posting} {r : Int × Store} (h : s.addTransaction p = .ok r) :
    SameBut [.transactions] s r.2 := by
  obtain ⟨amount, -, h⟩ := Except.of_bind_eq_ok h
  obtain ⟨-, -, h⟩ := Except.of_bind_eq_ok h
  obtain ⟨-, -, h⟩ := Except.of_bind_eq_ok h
  cases h
  exact sameBut_put .transactions _

theorem sameBut_categorize {i : Int} {category : Option Int}
    (h : s.categorize i category = .ok s') :
    SameBut [.transactions] s s' := by
  unfold categorize at h
  split at h
  · obtain ⟨-, -, h⟩ := Except.of_bind_eq_ok h
    cases h
    exact sameBut_put .transactions _
  · cases h
    exact .refl _ s

theorem sameBut_attachTag {i g : Int} {source : TagSource} (h : s.attachTag i g source = .ok s') :
    SameBut [.links] s s' := by
  unfold attachTag at h
  split at h
  · cases h
    exact .refl _ s
  · obtain ⟨-, -, h⟩ := Except.of_bind_eq_ok h
    obtain ⟨-, -, h⟩ := Except.of_bind_eq_ok h
    cases h
    exact sameBut_put .links _

/-- A change that is written gives its category first, if it has one, and then attaches its tags. -/
theorem of_writeMutation_eq_ok {m : Mutation} (h : s.writeMutation m = .ok s') :
    ∃ s₁ : Store, ((m.category = none ∧ s₁ = s) ∨
        ∃ c, m.category = some c ∧ s.categorize m.transaction (some c.after) = .ok s₁) ∧
      m.addedTags.foldlM (fun s tag => attachTag m.transaction tag .rule s) s₁ = .ok s' := by
  unfold writeMutation at h
  split at h
  · next c hcategory =>
      obtain ⟨s₁, hs₁, h⟩ := Except.of_bind_eq_ok h
      exact ⟨s₁, .inr ⟨c, hcategory, hs₁⟩, h⟩
  · next hnone => exact ⟨s, .inl ⟨hnone, rfl⟩, h⟩

theorem sameBut_writeMutation {m : Mutation} (h : s.writeMutation m = .ok s') :
    SameBut [.transactions, .links] s s' := by
  obtain ⟨s₁, hcategory, htags⟩ := of_writeMutation_eq_ok h
  have hs₁ : SameBut [.transactions, .links] s s₁ := by
    rcases hcategory with ⟨-, rfl⟩ | ⟨c, -, hset⟩
    · exact .refl _ s₁
    · exact (sameBut_categorize hset).mono (by simp)
  exact Except.of_foldlM_eq_ok (P := SameBut [.transactions, .links] s)
    (fun hs hstep => hs.trans ((sameBut_attachTag hstep).mono (by simp))) hs₁ htags

theorem sameBut_writeMutations {ms : List Mutation} (h : s.writeMutations ms = .ok s') :
    SameBut [.transactions, .links] s s' :=
  Except.of_foldlM_eq_ok (P := SameBut [.transactions, .links] s)
    (fun hs hstep => hs.trans (sameBut_writeMutation hstep)) (.refl _ s) h

theorem sameBut_addFilter {name expression : String} {r : Int × Store}
    (h : s.addFilter name expression = .ok r) : SameBut [.filters] s r.2 := by
  unfold addFilter at h
  split at h
  · cases h
  · cases h
    exact sameBut_put .filters _

theorem sameBut_addRule {d : RuleDraft} {r : Int × Store} (h : s.addRule d = .ok r) :
    SameBut [.rules] s r.2 := by
  obtain ⟨-, -, h⟩ := Except.of_bind_eq_ok h
  obtain ⟨-, -, h⟩ := Except.of_bind_eq_ok h
  cases h
  exact sameBut_put .rules _

theorem sameBut_setBudget {category : Int} {x : Float} {r : Int × Store}
    (h : s.setBudget category x = .ok r) : SameBut [.budgets] s r.2 := by
  obtain ⟨amount, -, h⟩ := Except.of_bind_eq_ok h
  split at h
  · cases h
    exact sameBut_put .budgets _
  · obtain ⟨-, -, h⟩ := Except.of_bind_eq_ok h
    cases h
    exact sameBut_put .budgets _

/-- An amount that is set is written to its table only. -/
theorem sameBut_override {α : Type} {T : OverrideTable α} {t : Table}
    {key : Int × String} {x : Float}
    (hput : ∀ rows, SameBut [t] s (T.put s rows)) (h : s.override T key x = .ok s') :
    SameBut [t] s s' := by
  obtain ⟨rows, -, rfl⟩ := OverrideTable.exists_sets_of_override h
  exact hput rows

theorem sameBut_addTarget {name : String} {filter : Int} {period : PeriodKind} {x : Float}
    {r : Int × Store} (h : s.addTarget name filter period x = .ok r) :
    SameBut [.targets] s r.2 := by
  obtain ⟨amount, -, h⟩ := Except.of_bind_eq_ok h
  cases h
  exact sameBut_put .targets _

theorem sameBut_addOffset {credit debit : Int} {x : Float} {r : Int × Store}
    (h : s.addOffset credit debit x = .ok r) : SameBut [.offsets] s r.2 := by
  obtain ⟨amount, -, h⟩ := Except.of_bind_eq_ok h
  obtain ⟨-, -, h⟩ := Except.of_bind_eq_ok h
  obtain ⟨-, -, h⟩ := Except.of_bind_eq_ok h
  cases h
  exact sameBut_put .offsets _

/-! ### Every operation -/

/-- **An operation leaves all tables but its own.** -/
theorem sameBut_perform {op : Operation} {a : Answer} (h : s.perform op = .ok (a, s')) :
    SameBut op.tables s s' := by
  cases op with
  | ensureAccount name =>
      cases h
      exact sameBut_ensureAccount name s
  | ensureCategory name sortOrder color =>
      cases h
      exact sameBut_ensureCategory name sortOrder color s
  | ensureTag name color =>
      cases h
      exact sameBut_ensureTag name color s
  | addTransaction p => exact Except.of_map_eq_ok_pair h fun _ => sameBut_addTransaction
  | categorize i c => exact Except.of_map_eq_ok_pair h fun _ => sameBut_categorize
  | attachTag i g source => exact Except.of_map_eq_ok_pair h fun _ => sameBut_attachTag
  | addFilter name expression => exact Except.of_map_eq_ok_pair h fun _ => sameBut_addFilter
  | deleteFilter i =>
      cases h
      exact sameBut_put .filters _
  | addRule d => exact Except.of_map_eq_ok_pair h fun _ => sameBut_addRule
  | enableRule i enabled =>
      cases h
      exact sameBut_put .rules _
  | deleteRule i =>
      cases h
      exact sameBut_put .rules _
  | writeMutations ms => exact Except.of_map_eq_ok_pair h fun _ => sameBut_writeMutations
  | setBudget c x => exact Except.of_map_eq_ok_pair h fun _ => sameBut_setBudget
  | overrideBudget b month x =>
      exact Except.of_map_eq_ok_pair h fun _ => sameBut_override (sameBut_put .budgetOverrides)
  | addTarget name f p x => exact Except.of_map_eq_ok_pair h fun _ => sameBut_addTarget
  | overrideTarget g p x =>
      exact Except.of_map_eq_ok_pair h fun _ => sameBut_override (sameBut_put .targetOverrides)
  | addOffset c d x => exact Except.of_map_eq_ok_pair h fun _ => sameBut_addOffset

/-- This holds also of an operation that is refused. -/
theorem sameBut_after (s : Store) (op : Operation) : SameBut op.tables s (s.after op) := by
  unfold after
  cases h : s.perform op with
  | error e => exact .refl _ s
  | ok answer => exact sameBut_perform h

end Store

end Coffer
