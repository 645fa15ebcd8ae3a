/-
**What the tables do not demand.**

The tables demand that what a record refers to is there, and hardly more: they would take an offset
of less than nothing, an amount for a target under any text, and a rule that does nothing.  It is
the commands that ask for more before they write.  What was right when it was written stays right,
because transactions keep their amounts and targets their period lengths, and because neither they
nor budgets, categories and tags are ever deleted.

Main definitions:

* `Coffer.Store.WellFormed` — **offsets, amounts for one period and rules are what they should be;**
* `Coffer.Operation.IsChecked` — what is seen to before an operation is asked for;
* `Coffer.Store.CheckedSteps` — one checked operation after another.

Main results:

* `Coffer.Store.mem_offsets_of_perform`, `Coffer.Store.mem_targetOverrides_of_perform`,
  `Coffer.Store.mem_budgetOverrides_of_perform`, `Coffer.Store.mem_rules_of_perform` — where a
  record comes from;
* `Coffer.Store.WellFormed.perform` — a checked operation keeps the records well-formed;
* `Coffer.Store.CheckedSteps.wellFormed` — **so does every row of checked operations.**
-/

import Coffer.Proofs.Calendar.Keys
import Coffer.Proofs.Store.Overrides
import Coffer.Proofs.Store.Permanence

set_option autoImplicit false

namespace Coffer

/-- A text is the key of a period, in the form in which keys are written. -/
def Period.IsKey (p : Period) (key : String) : Prop := ofKey key = .ok p ∧ p.key = key

/-- The key of a period that was read, in whatever form, is one. -/
theorem Period.isKey_of_ofKey {text : String} {p : Period} (h : ofKey text = .ok p) :
    p.IsKey p.key :=
  ⟨ofKey_key_of_ofKey h, rfl⟩

namespace Store

variable {s s' : Store} {op : Operation} {a : Answer}

/-! ### Records that are well-formed -/

/-- The amount of a transaction. -/
def amountOf? (s : Store) (i : Int) : Option Float := (s.row? i).map TransactionRow.amount

/-- An offset sets something of a credit against a debit. -/
structure Balances (s : Store) (o : CreditOffset) : Prop where
  amount : 0 < o.amount
  debit : ∃ x, s.amountOf? o.debit = some x ∧ x < 0
  credit : ∃ x, s.amountOf? o.credit = some x ∧ ¬ x < 0

/-- A text is the key of a period of the length that a target has. -/
def IsPeriodOf (s : Store) (target : Int) (key : String) : Prop :=
  ∃ g ∈ s.targets, g.id = target ∧ ∃ p : Period,
    p.IsKey key ∧ PeriodKind.ofName? g.period = some p.kind

/-- A text is the key of a month. -/
def IsMonth (key : String) : Prop := ∃ p : Period, p.IsKey key ∧ p.kind = .monthly

/-- A rule gives a category or a tag that is there. -/
def HasEffect (s : Store) (r : Rule) : Prop :=
  (∃ c, r.setCategory = some c ∧ s.hasCategory c = true) ∨ ∃ g ∈ r.addTags, s.hasTag g = true

/-- **Offsets, amounts for one period and rules are what they should be.** -/
structure WellFormed (s : Store) : Prop where
  offsets : ∀ o ∈ s.offsets, s.Balances o
  targetOverrides : ∀ o ∈ s.targetOverrides, s.IsPeriodOf o.target o.period
  budgetOverrides : ∀ o ∈ s.budgetOverrides, s.hasBudget o.budget = true ∧ IsMonth o.month
  rules : ∀ r ∈ s.rules, s.HasEffect r

theorem wellFormed_empty : empty.WellFormed := ⟨nofun, nofun, nofun, nofun⟩

end Store

/-- What is seen to before an operation is asked for. -/
def Operation.IsChecked (s : Store) : Operation → Prop
  | .addRule d => d.setCategory ≠ none ∨ d.addTags ≠ []
  | .overrideBudget _ month _ => Store.IsMonth month
  | .overrideTarget g key _ => s.IsPeriodOf g key
  | .addOffset credit debit x =>
    ¬ x ≤ 0 ∧ (∃ y, s.amountOf? debit = some y ∧ y < 0) ∧ ∃ y, s.amountOf? credit = some y ∧ ¬ y < 0
  | _ => True

namespace Store

variable {s s' : Store} {op : Operation} {a : Answer}

/-! ### Records that are read -/

/-- The amount that is read of a transaction is its amount. -/
theorem amountOf?_of_transaction? {i : Int} {t : Transaction}
    (h : s.transaction? i = .ok (some t)) :
    s.amountOf? i = some t.amount := by
  unfold transaction? at h
  unfold amountOf? row?
  cases hfind : s.transactions.find? (·.id == i) with
  | none =>
      rw [hfind] at h
      cases h
  | some r =>
      rw [hfind] at h
      obtain ⟨t', hread, ⟨⟩⟩ := Except.of_map_eq_ok h
      unfold readTransaction at hread
      split at hread
      · cases hread
        rfl
      · cases hread

/-- A target that is read has a row, with the length of its periods. -/
theorem exists_row_of_listTargets {gs : List Target} (h : s.listTargets = .ok gs) {g : Target}
    (hg : g ∈ gs) :
    ∃ row ∈ s.targets, row.id = g.id ∧ PeriodKind.ofName? row.period = some g.period := by
  have hkept : ∀ row g, readTarget row = .ok g →
      (g.id, some g.period) = (row.id, PeriodKind.ofName? row.period) := by
    intro row g hread
    obtain ⟨hid, hperiod⟩ := of_readTarget_eq_ok hread
    rw [hid, hperiod]
  have hmem := List.mem_map_of_mem (f := fun g : Target => (g.id, some g.period)) hg
  rw [Except.map_eq_of_mapM_eq_ok hkept h] at hmem
  obtain ⟨row, hrow, heq⟩ := List.mem_map.1 hmem
  obtain ⟨hid, hperiod⟩ := Prod.mk.inj heq
  exact ⟨row, List.mem_mergeSort.1 hrow, hid, hperiod⟩

/-! ### Where a record comes from -/

/-- An offset was there, or is asked for. -/
theorem mem_offsets_of_perform (h : s.perform op = .ok (a, s')) {o : CreditOffset}
    (ho : o ∈ s'.offsets) :
    o ∈ s.offsets ∨ ∃ column x, op = .addOffset o.credit o.debit x ∧
      keepAmount column x = .ok o.amount := by
  have hother (hop : .offsets ∉ op.tables) : o ∈ s.offsets :=
    (sameBut_perform h).of_mem .offsets hop ho
  cases op with
  | addOffset credit debit x =>
      obtain ⟨r, hr, ⟨⟩⟩ := Except.of_map_eq_ok h
      obtain ⟨amount, hamount, hr⟩ := Except.of_bind_eq_ok hr
      obtain ⟨-, -, hr⟩ := Except.of_bind_eq_ok hr
      obtain ⟨-, -, hr⟩ := Except.of_bind_eq_ok hr
      cases hr
      rcases List.mem_append.1 ho with ho | ho
      · exact .inl ho
      · cases List.mem_singleton.1 ho
        exact .inr ⟨_, x, rfl, hamount⟩
  | _ => exact .inl (hother (by simp [Operation.tables]))

/-- A key of a table of amounts was there, or an amount is asked for under it: `asks` is the
operation that asks for one, the only one that writes to the table. -/
theorem exists_key_of_perform {α : Type} (T : OverrideTable α) {t : Table}
    (asks : Int × String → Float → Operation) (h : s.perform op = .ok (a, s'))
    (hkeeps : t ∉ op.tables → T.rows s' = T.rows s)
    (hasks : t ∈ op.tables → ∃ key x, op = asks key x ∧
      s.perform op = (s.override T key x).map withDone) {o : α} (ho : o ∈ T.rows s') :
    (∃ o' ∈ T.rows s, T.key o' = T.key o) ∨ ∃ x, op = asks (T.key o) x := by
  by_cases hop : t ∈ op.tables
  · obtain ⟨key, x, hasked, hwrites⟩ := hasks hop
    rw [hwrites] at h
    obtain ⟨r, hr, ⟨⟩⟩ := Except.of_map_eq_ok h
    refine (OverrideTable.exists_key_of_override hr ho).imp_right fun hkey => ?_
    exact ⟨x, hkey ▸ hasked⟩
  · exact .inl ⟨o, hkeeps hop ▸ ho, rfl⟩

/-- A target had an amount for a period, or it is asked for. -/
theorem mem_targetOverrides_of_perform (h : s.perform op = .ok (a, s')) {o : TargetOverride}
    (ho : o ∈ s'.targetOverrides) :
    (∃ o' ∈ s.targetOverrides, (o'.target, o'.period) = (o.target, o.period)) ∨
      ∃ x, op = .overrideTarget o.target o.period x := by
  refine exists_key_of_perform .targets (fun key => .overrideTarget key.1 key.2) h
    (sameBut_perform h .targetOverrides) (fun hop => ?_) ho
  cases op with
  | overrideTarget target period x => exact ⟨(target, period), x, rfl, rfl⟩
  | _ => simp [Operation.tables] at hop

/-- A budget had an amount for a month, or it is asked for. -/
theorem mem_budgetOverrides_of_perform (h : s.perform op = .ok (a, s')) {o : BudgetOverride}
    (ho : o ∈ s'.budgetOverrides) :
    (∃ o' ∈ s.budgetOverrides, (o'.budget, o'.month) = (o.budget, o.month)) ∨
      ∃ x, op = .overrideBudget o.budget o.month x := by
  refine exists_key_of_perform .budgets (fun key => .overrideBudget key.1 key.2) h
    (sameBut_perform h .budgetOverrides) (fun hop => ?_) ho
  cases op with
  | overrideBudget budget month x => exact ⟨(budget, month), x, rfl, rfl⟩
  | _ => simp [Operation.tables] at hop

/-- What a rule says is said by a rule that was there, or is asked for. -/
theorem mem_rules_of_perform (h : s.perform op = .ok (a, s')) {r : Rule} (hr : r ∈ s'.rules) :
    (∃ r' ∈ s.rules, r'.setCategory = r.setCategory ∧ r'.addTags = r.addTags) ∨
      ∃ d, op = .addRule d ∧ r.setCategory = d.setCategory ∧ r.addTags = ascending d.addTags := by
  have hother (hop : .rules ∉ op.tables) : r ∈ s.rules :=
    (sameBut_perform h).of_mem .rules hop hr
  cases op with
  | addRule d =>
      obtain ⟨y, hy, ⟨⟩⟩ := Except.of_map_eq_ok h
      obtain ⟨-, -, hy⟩ := Except.of_bind_eq_ok hy
      obtain ⟨-, -, hy⟩ := Except.of_bind_eq_ok hy
      cases hy
      rcases List.mem_append.1 hr with hr | hr
      · exact .inl ⟨r, hr, rfl, rfl⟩
      · cases List.mem_singleton.1 hr
        exact .inr ⟨d, rfl, rfl, rfl⟩
  | enableRule i enabled =>
      cases h
      obtain ⟨r', hr', rfl⟩ := List.mem_map.1 hr
      refine .inl ⟨r', hr', ?_⟩
      split <;> exact ⟨rfl, rfl⟩
  | deleteRule i =>
      cases h
      exact .inl ⟨r, (List.mem_filter.1 hr).1, rfl, rfl⟩
  | _ => exact .inl ⟨r, hother (by simp [Operation.tables]), rfl, rfl⟩

/-! ### What stays -/

/-- A transaction keeps its amount. -/
theorem amountOf?_perform {i : Int} {x : Float} (hx : s.amountOf? i = some x)
    (h : s.perform op = .ok (a, s')) : s'.amountOf? i = some x := by
  obtain ⟨r, hr, rfl⟩ := Option.map_eq_some_iff.1 hx
  exact Option.map_eq_some_iff.2 ⟨_, row?_perform hr h, rfl⟩

theorem Balances.perform {o : CreditOffset} (ho : s.Balances o) (h : s.perform op = .ok (a, s')) :
    s'.Balances o where
  amount := ho.amount
  debit := ho.debit.imp fun _ hx => ⟨amountOf?_perform hx.1 h, hx.2⟩
  credit := ho.credit.imp fun _ hx => ⟨amountOf?_perform hx.1 h, hx.2⟩

/-- Targets stay as they are. -/
theorem Change.prefix_targets (h : Change s s') : s.targets <+: s'.targets := by
  cases h with
  | target name filter period hamount => exact List.prefix_append ..
  | _ => exact List.prefix_rfl

theorem IsPeriodOf.perform {target : Int} {key : String} (hkey : s.IsPeriodOf target key)
    (h : s.perform op = .ok (a, s')) : s'.IsPeriodOf target key := by
  obtain ⟨g, hg, hfits⟩ := hkey
  refine ⟨g, ?_, hfits⟩
  exact (changes_perform h).keeps (P := (g ∈ ·.targets))
    (fun hg hchange => hchange.prefix_targets.subset hg) hg

/-! ### Checked operations -/

theorem balances_of_isChecked {o : CreditOffset} {x : Float} {column : String}
    (h : (Operation.addOffset o.credit o.debit x).IsChecked s)
    (hamount : keepAmount column x = .ok o.amount) : s.Balances o where
  amount := by
    -- the comparison lets pass what is not a number, and then the store refuses it
    obtain ⟨hpositive, hne⟩ := Binary64.lt_of_not_le_zero (beq_of_keepAmount hamount).1 h.1
    rw [of_keepAmount_eq_ok hamount, if_neg (by simp [hne])]
    exact hpositive
  debit := h.2.1
  credit := h.2.2

/-- A rule that says something gives what is there, since what it gives is there. -/
theorem hasEffect_of_hasNamesOf {r : Rule} (hthere : s.HasNamesOf r)
    (hr : r.setCategory ≠ none ∨ r.addTags ≠ []) : s.HasEffect r := by
  rcases hr with hcategory | htags
  · obtain ⟨c, hc⟩ := Option.ne_none_iff_exists'.1 hcategory
    exact .inl ⟨c, hc, hthere.category c hc⟩
  · obtain ⟨g, hg⟩ := List.exists_mem_of_ne_nil _ htags
    exact .inr ⟨g, hg, hthere.tags g hg⟩

/-- **A checked operation keeps the records well-formed.** -/
theorem WellFormed.perform (hs : s.WellFormed) (hthere : s'.RefersToRecords) (hop : op.IsChecked s)
    (h : s.perform op = .ok (a, s')) : s'.WellFormed where
  offsets := by
    intro o ho
    rcases mem_offsets_of_perform h ho with hold | ⟨column, x, rfl, hamount⟩
    · exact (hs.offsets o hold).perform h
    · exact (balances_of_isChecked hop hamount).perform h
  targetOverrides := by
    intro o ho
    rcases mem_targetOverrides_of_perform h ho with ⟨o', ho', hkey⟩ | ⟨x, rfl⟩
    · rw [← (Prod.mk.inj hkey).1, ← (Prod.mk.inj hkey).2]
      exact (hs.targetOverrides o' ho').perform h
    · exact IsPeriodOf.perform hop h
  budgetOverrides := by
    intro o ho
    refine ⟨hthere.budgetOverrides o ho, ?_⟩
    rcases mem_budgetOverrides_of_perform h ho with ⟨o', ho', hkey⟩ | ⟨x, rfl⟩
    · rw [← (Prod.mk.inj hkey).2]
      exact (hs.budgetOverrides o' ho').2
    · exact hop
  rules := by
    intro r hr
    refine hasEffect_of_hasNamesOf (hthere.rules r hr) ?_
    rcases mem_rules_of_perform h hr with ⟨r', hr', hcategory, htags⟩ | ⟨d, rfl, hcategory, htags⟩
    · rw [← hcategory, ← htags]
      rcases hs.rules r' hr' with ⟨c, hc, -⟩ | ⟨g, hg, -⟩
      · exact .inl (by simp [hc])
      · exact .inr (List.ne_nil_of_mem hg)
    · rw [hcategory, htags]
      refine hop.imp_right fun hne => ?_
      obtain ⟨g, hg⟩ := List.exists_mem_of_ne_nil _ hne
      exact List.ne_nil_of_mem (mem_ascending_iff.2 hg)

/-! ### Rows of checked operations -/

/-- One checked operation after another. -/
abbrev CheckedSteps : Store → Store → Prop :=
  Relation.ReflTransGen fun s s' => ∃ op a, op.IsChecked s ∧ s.perform op = .ok (a, s')

theorem CheckedSteps.of_perform (op : Operation) (hop : op.IsChecked s)
    (h : s.perform op = .ok (a, s')) :
    CheckedSteps s s' := .single ⟨op, a, hop, h⟩

/-- This holds also of an operation that is refused. -/
theorem CheckedSteps.after (op : Operation) (hop : op.IsChecked s) :
    CheckedSteps s (s.after op) := by
  unfold Store.after
  split
  · next h => exact .of_perform op hop h
  · exact .refl

/-- Checked operations are operations. -/
theorem CheckedSteps.exists_run (h : CheckedSteps s s') : ∃ ops, s' = s.run ops := by
  induction h with
  | refl => exact ⟨[], rfl⟩
  | tail _ hstep ih =>
      obtain ⟨ops, rfl⟩ := ih
      obtain ⟨op, a, -, hperform⟩ := hstep
      refine ⟨ops ++ [op], ?_⟩
      rw [run_append, run_of_perform hperform]
      rfl

/-- The tables are in order after checked operations, as after all others. -/
theorem CheckedSteps.integrity (h : CheckedSteps empty s) : s.Integrity := by
  obtain ⟨ops, rfl⟩ := h.exists_run
  exact (integrity_run ops).1

/-- **Every row of checked operations keeps the records well-formed.** -/
theorem CheckedSteps.wellFormed (h : CheckedSteps empty s) : s.WellFormed := by
  induction h with
  | refl => exact wellFormed_empty
  | tail hbefore hstep ih =>
      have hthere := CheckedSteps.integrity (hbefore.tail hstep)
      obtain ⟨op, a, hop, hperform⟩ := hstep
      exact ih.perform hthere.references hop hperform

end Store

end Coffer
