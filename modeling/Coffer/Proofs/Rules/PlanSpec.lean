/-
**What a plan of the rules has to say.**

A plan lists every enabled rule once: with the number of transactions in scope that it selects, or
as a failure if its filter is missing or cannot be read.  It changes a transaction in scope if the
last rule that selects it and sets a category sets another one than it has, or if some rule that
selects it adds a tag that it does not carry; and then it says so and nothing else.  Every rule
looks at the transactions as they are, so none of this depends on what other rules change.

If no two rules and no two transactions have the same id, then there is at most one such plan.

Main definitions:

* `Coffer.Rules.Binds`, `Coffer.Rules.Lacks` — the filter of a rule, or why it has none;
* `Coffer.Rules.Problem` — what a plan is made for;
* `Coffer.Rules.Problem.Applies`, `Coffer.Rules.Problem.Recategorizes`,
  `Coffer.Rules.Problem.Tags` — what rules do to a transaction;
* `Coffer.Rules.Problem.IsPlan` — the specification.

Main results:

* `Coffer.Rules.Problem.listed_plan`, `Coffer.Rules.Problem.counts_plan`,
  `Coffer.Rules.Problem.failures_plan` — what is said of the rules;
* `Coffer.Rules.Problem.ordered_plan`, `Coffer.Rules.Problem.changes_plan`,
  `Coffer.Rules.Problem.mutations_plan` — what is said of the transactions;
* `Coffer.Rules.Problem.eq_of_isPlan` — **there are not two plans.**
-/

import Coffer.Proofs.Filter.Saved
import Coffer.Proofs.Rules.Order
import Mathlib.Data.List.Forall2
import Mathlib.Tactic.SplitIfs

set_option autoImplicit false

namespace Coffer.Rules

/-! ### Filters of rules -/

/-- A rule has a filter: the saved filter that it names is there and can be read. -/
abbrev Binds (savedFilters : Index SavedFilter) (r : Rule) : Filter → Prop :=
  Filter.Binds savedFilters r.filter

/-- Why a rule has no filter: the saved filter that it names is missing or cannot be read. -/
abbrev Lacks (savedFilters : Index SavedFilter) (r : Rule) : BindingError → Prop :=
  Filter.Lacks savedFilters (.noFilter r.filter) (fun saved => .badFilter saved.name) r.filter

variable {savedFilters : Index SavedFilter} {r : Rule}

theorem boundFilter_eq_ok_iff {f : Filter} :
    boundFilter savedFilters r = .ok f ↔ Binds savedFilters r f := Filter.ofSaved_eq_ok_iff

theorem boundFilter_eq_error_iff {e : BindingError} :
    boundFilter savedFilters r = .error e ↔ Lacks savedFilters r e := Filter.ofSaved_eq_error_iff

/-! ### The specification -/

/-- What a plan is made for. -/
structure Problem where
  catalog : Catalog
  tagMap : TagMap
  savedFilters : Index SavedFilter
  scope : AccountScope
  transactions : List Transaction
  rules : List Rule

namespace Problem

variable (P : Problem)

/-- The plan that is made. -/
def plan : RulePlan :=
  Rules.plan P.catalog P.tagMap P.savedFilters P.scope P.transactions P.rules

/-- A transaction as filters see it. -/
def view (t : Transaction) : View := P.catalog.view t (P.tagMap.tagsOf t.id)

/-- An enabled rule with a filter selects a transaction. -/
def Applies (r : Rule) (t : Transaction) : Prop :=
  r ∈ P.rules ∧ r.enabled = true ∧ ∃ f, Binds P.savedFilters r f ∧ f.selects (P.view t) = true

/-- A transaction gets a category that it does not have: that of the last rule that selects it and
sets one. -/
def Recategorizes (t : Transaction) (c : Int) : Prop :=
  t.category ≠ some c ∧
    ∃ r, P.Applies r t ∧ r.setCategory = some c ∧
      ∀ r', P.Applies r' t → r'.setCategory ≠ none → r' = r ∨ Before r' r

/-- A transaction gets a tag that it does not carry, from some rule that selects it. -/
def Tags (t : Transaction) (i : Int) : Prop :=
  (∃ r, P.Applies r t ∧ i ∈ r.addTags) ∧ ∀ g ∈ P.tagMap.tagsOf t.id, g.id ≠ i

/-- The line of a rule that has a filter. -/
structure IsCount (r : Rule) (c : RuleCount) : Prop where
  rule : c.rule = r.id
  name : c.name = r.name
  count : ∃ f, Binds P.savedFilters r f ∧
    c.count = (P.transactions.filter P.scope.holds).countP fun t => f.selects (P.view t)

/-- The line of a rule that has none. -/
structure IsFailure (r : Rule) (c : RuleFailure) : Prop where
  rule : c.rule = r.id
  name : c.name = r.name
  reason : Lacks P.savedFilters r c.reason

/-- Everything that changes on a transaction, and nothing else. -/
structure IsMutation (t : Transaction) (m : Mutation) : Prop where
  transaction : m.transaction = t.id
  category : ∀ c, m.category = some c ↔ c.before = t.category ∧ P.Recategorizes t c.after
  tags : ∀ i, i ∈ m.addedTags ↔ P.Tags t i
  ascending : m.addedTags.Pairwise (· < ·)

/-- **What a plan has to say.** -/
structure IsPlan (p : RulePlan) : Prop where
  /-- Every enabled rule is listed once, and no other rule. -/
  listed : (p.counts.map (·.rule) ++ p.failures.map (·.rule)).Perm
    ((P.rules.filter (·.enabled)).map (·.id))
  /-- The enabled rules with filters are counted, in their order. -/
  counts : ∃ rs : List Rule, rs.Pairwise Before ∧
    (∀ r, r ∈ rs ↔ r ∈ P.rules ∧ r.enabled = true ∧ ∃ f, Binds P.savedFilters r f) ∧
    List.Forall₂ P.IsCount rs p.counts
  /-- The enabled rules without filters are failures, in their order. -/
  failures : ∃ rs : List Rule, rs.Pairwise Before ∧
    (∀ r, r ∈ rs ↔ r ∈ P.rules ∧ r.enabled = true ∧ ∃ e, Lacks P.savedFilters r e) ∧
    List.Forall₂ P.IsFailure rs p.failures
  /-- Transactions change one by one, in the order in which they are given. -/
  ordered : (p.mutations.map (·.transaction)).Sublist (P.transactions.map (·.id))
  /-- Those in scope that get a category or a tag change. -/
  changes : ∀ t ∈ P.transactions, (∃ m ∈ p.mutations, m.transaction = t.id) ↔
    P.scope.holds t = true ∧ ((∃ c, P.Recategorizes t c) ∨ ∃ i, P.Tags t i)
  /-- They change as the rules say. -/
  mutations : ∀ t ∈ P.transactions, ∀ m ∈ p.mutations, m.transaction = t.id → P.IsMutation t m

/-! ### Counts and failures -/

variable {P}

/-- Whether a rule has a filter. -/
def isBound (P : Problem) (r : Rule) : Bool := (boundFilter P.savedFilters r).toOption.isSome

theorem isBound_iff : P.isBound r = true ↔ ∃ f, Binds P.savedFilters r f := by
  unfold isBound
  cases h : boundFilter P.savedFilters r with
  | ok f => simpa [Except.toOption] using ⟨f, boundFilter_eq_ok_iff.1 h⟩
  | error e => simp [Except.toOption, ← boundFilter_eq_ok_iff, h]

theorem isBound_eq_false_iff : P.isBound r = false ↔ ∃ e, Lacks P.savedFilters r e := by
  unfold isBound
  cases h : boundFilter P.savedFilters r with
  | ok f => simp [Except.toOption, ← boundFilter_eq_error_iff, h]
  | error e => simpa [Except.toOption] using ⟨e, boundFilter_eq_error_iff.1 h⟩

theorem mem_bind_iff {rs : List Rule} {b : Bound} :
    b ∈ bind P.savedFilters rs ↔ b.rule ∈ rs ∧ Binds P.savedFilters b.rule b.filter := by
  rw [bind, List.mem_filterMap]
  constructor
  · rintro ⟨r, hr, hb⟩
    cases h : boundFilter P.savedFilters r with
    | error e => rw [h] at hb; cases hb
    | ok f =>
        rw [h] at hb
        cases hb
        exact ⟨hr, boundFilter_eq_ok_iff.1 h⟩
  · rintro ⟨hr, hb⟩
    exact ⟨b.rule, hr, by rw [boundFilter_eq_ok_iff.2 hb]; rfl⟩

theorem map_rule_bind (rs : List Rule) :
    (bind P.savedFilters rs).map Bound.rule = rs.filter P.isBound := by
  induction rs with
  | nil => rfl
  | cons r rest ih =>
      have hcons : bind P.savedFilters (r :: rest) =
          ((boundFilter P.savedFilters r).toOption.map (Bound.mk r)).toList ++
            bind P.savedFilters rest := by
        rw [bind, bind, List.filterMap_cons]
        cases (boundFilter P.savedFilters r).toOption <;> rfl
      rw [hcons, List.map_append, ih, List.filter_cons, isBound]
      cases (boundFilter P.savedFilters r).toOption <;> rfl

/-- The lines of the rules that have filters. -/
theorem forall₂_counts : List.Forall₂ P.IsCount ((enabledInOrder P.rules).filter P.isBound)
    P.plan.counts := by
  rw [← map_rule_bind]
  refine List.forall₂_map_left_iff.2 (List.forall₂_map_right_iff.2 ?_)
  refine List.forall₂_same.2 fun b hb => ?_
  exact ⟨rfl, rfl, b.filter, (mem_bind_iff.1 hb).2, rfl⟩

/-- The lines of the rules that have none. -/
theorem forall₂_failures (rs : List Rule) :
    List.Forall₂ P.IsFailure (rs.filter fun r => !P.isBound r)
      (Rules.failures P.savedFilters rs) := by
  induction rs with
  | nil => exact .nil
  | cons r rest ih =>
      rw [Rules.failures, List.filterMap_cons, List.filter_cons, isBound]
      cases h : boundFilter P.savedFilters r with
      | ok f => exact ih
      | error e => exact .cons ⟨rfl, rfl, boundFilter_eq_error_iff.1 h⟩ ih

/-- Lines that name their rules one by one. -/
theorem map_eq_of_forall₂ {α : Type} {line : α → Int} {rs : List Rule} {cs : List α}
    (h : List.Forall₂ (fun r c => line c = r.id) rs cs) : cs.map line = rs.map (·.id) := by
  induction h with
  | nil => rfl
  | cons hline _ ih => rw [List.map_cons, List.map_cons, hline, ih]

/-- **Every enabled rule is listed once.** -/
theorem listed_plan : (P.plan.counts.map (·.rule) ++ P.plan.failures.map (·.rule)).Perm
    ((P.rules.filter (·.enabled)).map (·.id)) := by
  have hcounts : P.plan.counts.map (·.rule) =
      ((enabledInOrder P.rules).filter P.isBound).map (·.id) :=
    map_eq_of_forall₂ (forall₂_counts.imp fun _ _ h => h.rule)
  have hfailures : P.plan.failures.map (·.rule) =
      ((enabledInOrder P.rules).filter fun r => !P.isBound r).map (·.id) :=
    map_eq_of_forall₂ ((forall₂_failures _).imp fun _ _ h => h.rule)
  rw [hcounts, hfailures, ← List.map_append]
  exact ((List.filter_append_perm _ _).trans (enabledInOrder_perm P.rules)).map _

/-! ### Changes -/

/-- The enabled rules with their filters, in their order. -/
def bound (P : Problem) : List Bound := bind P.savedFilters (enabledInOrder P.rules)

/-- The rules of a list that select a transaction. -/
def selecting (P : Problem) (bs : List Bound) (t : Transaction) : List Rule :=
  (bs.filter fun b => b.filter.selects (P.view t)).map Bound.rule

theorem mem_selecting_iff {t : Transaction} : r ∈ P.selecting P.bound t ↔ P.Applies r t := by
  simp only [selecting, bound, List.mem_map, List.mem_filter, mem_bind_iff, mem_enabledInOrder_iff]
  constructor
  · rintro ⟨b, ⟨⟨⟨hr, henabled⟩, hbinds⟩, hselects⟩, rfl⟩
    exact ⟨hr, henabled, b.filter, hbinds, hselects⟩
  · rintro ⟨hr, henabled, f, hbinds, hselects⟩
    exact ⟨⟨r, f⟩, ⟨⟨⟨hr, henabled⟩, hbinds⟩, hselects⟩, rfl⟩

theorem pairwise_selecting (h : (P.rules.map (·.id)).Nodup) (t : Transaction) :
    (P.selecting P.bound t).Pairwise Before := by
  have hsub : (P.selecting P.bound t).Sublist (enabledInOrder P.rules) := by
    refine (List.filter_sublist.map _).trans ?_
    rw [bound, map_rule_bind]
    exact List.filter_sublist
  exact (pairwise_enabledInOrder h).sublist hsub

theorem categoryChange?_eq_some_iff {t : Transaction} {rs : List Rule} {c : CategoryChange} :
    categoryChange? t rs = some c ↔
      c.before = t.category ∧ t.category ≠ some c.after ∧ lastCategory rs = some c.after := by
  obtain ⟨before, after⟩ := c
  unfold categoryChange?
  cases h : lastCategory rs with
  | none => simp
  | some c =>
      dsimp only
      split_ifs with hc
      · simp only [Option.some_inj, false_iff, not_and]
        rintro - hne rfl
        exact hne hc
      · simp only [Option.some_inj, CategoryChange.mk.injEq]
        constructor
        · rintro ⟨rfl, rfl⟩
          exact ⟨rfl, hc, rfl⟩
        · rintro ⟨rfl, -, rfl⟩
          exact ⟨rfl, rfl⟩

/-- The category changes as the rules say. -/
theorem categoryChange?_selecting (h : (P.rules.map (·.id)).Nodup) {t : Transaction}
    {c : CategoryChange} :
    categoryChange? t (P.selecting P.bound t) = some c ↔
      c.before = t.category ∧ P.Recategorizes t c.after := by
  simp only [categoryChange?_eq_some_iff, lastCategory_eq_some_iff (pairwise_selecting h t),
    mem_selecting_iff, Recategorizes]

/-- The tags are added as the rules say. -/
theorem mem_addedTags_selecting {t : Transaction} {i : Int} :
    i ∈ addedTags (P.tagMap.tagsOf t.id) (P.selecting P.bound t) ↔ P.Tags t i := by
  simp only [mem_addedTags_iff, mem_selecting_iff, Tags]

theorem mutation?_eq_some_iff {t : Transaction} {tags : List Tag} {rs : List Rule} {m : Mutation} :
    mutation? t tags rs = some m ↔
      m = ⟨t.id, categoryChange? t rs, addedTags tags rs⟩ ∧
        ((∃ c, categoryChange? t rs = some c) ∨ ∃ i, i ∈ addedTags tags rs) := by
  unfold mutation?
  dsimp only
  split_ifs with h
  · simp only [Bool.and_eq_true, Option.isNone_iff_eq_none, List.isEmpty_iff] at h
    simp [h.1, h.2]
  · simp only [Bool.and_eq_true, Option.isNone_iff_eq_none, List.isEmpty_iff, not_and_or] at h
    have htags : (∃ i, i ∈ addedTags tags rs) ↔ addedTags tags rs ≠ [] :=
      ⟨fun ⟨_, hi⟩ => List.ne_nil_of_mem hi, List.exists_mem_of_ne_nil _⟩
    rw [Option.some_inj, ← Option.ne_none_iff_exists', htags]
    constructor
    · rintro rfl
      exact ⟨rfl, h⟩
    · rintro ⟨rfl, -⟩
      rfl

/-- A mutation is one of a transaction in scope. -/
theorem mem_mutations_iff {m : Mutation} :
    m ∈ P.plan.mutations ↔ ∃ t ∈ P.transactions, P.scope.holds t = true ∧
      mutation? t (P.tagMap.tagsOf t.id) (P.selecting P.bound t) = some m := by
  simp only [plan, Rules.plan, List.mem_filterMap, List.mem_filter, and_assoc]
  rfl

/-- **A mutation is that of a transaction in scope which it is about, and is as the rules say.** -/
theorem isMutation_of_mem (h : (P.rules.map (·.id)).Nodup) {t : Transaction} {m : Mutation}
    (hm : mutation? t (P.tagMap.tagsOf t.id) (P.selecting P.bound t) = some m) :
    P.IsMutation t m := by
  obtain ⟨rfl, -⟩ := mutation?_eq_some_iff.1 hm
  exact ⟨rfl, fun c => categoryChange?_selecting h, fun i => mem_addedTags_selecting,
    pairwise_addedTags _ _⟩

/-- A transaction has a mutation if it gets a category or a tag. -/
theorem exists_mutation?_iff (h : (P.rules.map (·.id)).Nodup) {t : Transaction} :
    (∃ m, mutation? t (P.tagMap.tagsOf t.id) (P.selecting P.bound t) = some m) ↔
      (∃ c, P.Recategorizes t c) ∨ ∃ i, P.Tags t i := by
  simp only [mutation?_eq_some_iff, exists_eq_left, categoryChange?_selecting h,
    mem_addedTags_selecting]
  refine or_congr_left ⟨?_, ?_⟩
  · rintro ⟨c, -, hc⟩
    exact ⟨c.after, hc⟩
  · rintro ⟨c, hc⟩
    exact ⟨⟨t.category, c⟩, rfl, hc⟩

/-- Mutations come in the order of their transactions. -/
theorem sublist_mutations {f : Transaction → Option Mutation}
    (hf : ∀ t m, f t = some m → m.transaction = t.id) (ts : List Transaction) :
    ((ts.filterMap f).map (·.transaction)).Sublist (ts.map (·.id)) := by
  induction ts with
  | nil => exact .slnil
  | cons t rest ih =>
      rw [List.filterMap_cons]
      cases h : f t with
      | none => exact .cons _ ih
      | some m =>
          rw [List.map_cons, List.map_cons, hf t m h]
          exact .cons_cons _ ih

/-- No transaction has two changes. -/
theorem nodup_mutations (hids : (P.transactions.map (·.id)).Nodup) :
    (P.plan.mutations.map (·.transaction)).Nodup := by
  refine hids.sublist ((sublist_mutations (fun t m hm => ?_) _).trans (List.filter_sublist.map _))
  exact congrArg Mutation.transaction (mutation?_eq_some_iff.1 hm).1

/-! ### The plan -/

/-- The enabled rules with filters are counted, in their order. -/
theorem counts_plan (hrules : (P.rules.map (·.id)).Nodup) :
    ∃ rs : List Rule, rs.Pairwise Before ∧
      (∀ r, r ∈ rs ↔ r ∈ P.rules ∧ r.enabled = true ∧ ∃ f, Binds P.savedFilters r f) ∧
      List.Forall₂ P.IsCount rs P.plan.counts := by
  refine ⟨_, (pairwise_enabledInOrder hrules).sublist List.filter_sublist, fun r => ?_,
    forall₂_counts⟩
  rw [List.mem_filter, mem_enabledInOrder_iff, isBound_iff, and_assoc]

/-- The enabled rules without filters are failures, in their order. -/
theorem failures_plan (hrules : (P.rules.map (·.id)).Nodup) :
    ∃ rs : List Rule, rs.Pairwise Before ∧
      (∀ r, r ∈ rs ↔ r ∈ P.rules ∧ r.enabled = true ∧ ∃ e, Lacks P.savedFilters r e) ∧
      List.Forall₂ P.IsFailure rs P.plan.failures := by
  refine ⟨_, (pairwise_enabledInOrder hrules).sublist List.filter_sublist, fun r => ?_,
    forall₂_failures _⟩
  rw [List.mem_filter, mem_enabledInOrder_iff, Bool.not_eq_true', isBound_eq_false_iff, and_assoc]

/-- Transactions change one by one, in the order in which they are given. -/
theorem ordered_plan (P : Problem) :
    (P.plan.mutations.map (·.transaction)).Sublist (P.transactions.map (·.id)) := by
  have hscope := (List.filter_sublist (p := P.scope.holds) (l := P.transactions)).map (·.id)
  refine (sublist_mutations (fun t m hm => ?_) _).trans hscope
  exact congrArg Mutation.transaction (mutation?_eq_some_iff.1 hm).1

/-- A mutation that is about a transaction is the one that the rules make of it. -/
theorem mutation?_of_mem (htransactions : (P.transactions.map (·.id)).Nodup) {t : Transaction}
    (ht : t ∈ P.transactions) {m : Mutation} (hm : m ∈ P.plan.mutations)
    (hid : m.transaction = t.id) :
    P.scope.holds t = true ∧
      mutation? t (P.tagMap.tagsOf t.id) (P.selecting P.bound t) = some m := by
  obtain ⟨t', ht', hscope, hmut⟩ := mem_mutations_iff.1 hm
  have htid : m.transaction = t'.id :=
    congrArg Mutation.transaction (mutation?_eq_some_iff.1 hmut).1
  obtain rfl := List.inj_on_of_nodup_map htransactions ht' ht (htid.symm.trans hid)
  exact ⟨hscope, hmut⟩

/-- The transactions in scope that get a category or a tag change. -/
theorem changes_plan (hrules : (P.rules.map (·.id)).Nodup)
    (htransactions : (P.transactions.map (·.id)).Nodup) {t : Transaction}
    (ht : t ∈ P.transactions) :
    (∃ m ∈ P.plan.mutations, m.transaction = t.id) ↔
      P.scope.holds t = true ∧ ((∃ c, P.Recategorizes t c) ∨ ∃ i, P.Tags t i) := by
  rw [← exists_mutation?_iff hrules]
  constructor
  · rintro ⟨m, hm, hid⟩
    obtain ⟨hscope, hmut⟩ := mutation?_of_mem htransactions ht hm hid
    exact ⟨hscope, m, hmut⟩
  · rintro ⟨hscope, m, hmut⟩
    exact ⟨m, mem_mutations_iff.2 ⟨t, ht, hscope, hmut⟩,
      (isMutation_of_mem hrules hmut).transaction⟩

/-- They change as the rules say. -/
theorem mutations_plan (hrules : (P.rules.map (·.id)).Nodup)
    (htransactions : (P.transactions.map (·.id)).Nodup) {t : Transaction} (ht : t ∈ P.transactions)
    {m : Mutation} (hm : m ∈ P.plan.mutations) (hid : m.transaction = t.id) : P.IsMutation t m :=
  isMutation_of_mem hrules (mutation?_of_mem htransactions ht hm hid).2

/-! ### There are not two plans -/

/-- Rules in order are told by what is among them. -/
theorem eq_of_pairwise_before {rs rs' : List Rule} (h : rs.Pairwise Before)
    (h' : rs'.Pairwise Before) (hmem : ∀ r, r ∈ rs ↔ r ∈ rs') : rs = rs' := by
  have hne : ∀ {a b : Rule}, Before a b → a ≠ b := by
    rintro a b hab rfl
    exact hab.irrefl
  have hperm : rs.Perm rs' := (List.perm_ext_iff_of_nodup (h.imp hne) (h'.imp hne)).2 hmem
  exact hperm.eq_of_pairwise (fun a b _ _ hab hba => absurd hba hab.asymm) h h'

/-- Parts of a list without repetitions are told by what is in them. -/
theorem eq_of_sublist {l a b : List Int} (hn : l.Nodup) (ha : a.Sublist l) (hb : b.Sublist l)
    (hmem : ∀ i, i ∈ a ↔ i ∈ b) : a = b := by
  have hkept : ∀ {c : List Int}, c.Sublist l → c = l.filter (· ∈ c) := by
    intro c hc
    have hself : c.filter (· ∈ c) = c := List.filter_eq_self.2 fun i hi => by simpa using hi
    have hsub : c.Sublist (l.filter (· ∈ c)) := by
      have hfilter := hc.filter (· ∈ c)
      rwa [hself] at hfilter
    refine hsub.eq_of_length (List.Perm.length_eq ?_)
    refine (List.perm_ext_iff_of_nodup (hc.nodup hn) (hn.filter _)).2 fun i => ?_
    simpa using fun hi => hc.subset hi
  rw [hkept ha, hkept hb]
  exact List.filter_congr fun i _ => by simp [hmem i]

theorem rightUnique_isCount : Relator.RightUnique P.IsCount := by
  rintro r ⟨i, name, n⟩ ⟨i', name', n'⟩ ⟨hrule, hname, f, hf, hn⟩ ⟨hrule', hname', f', hf', hn'⟩
  obtain rfl := hf.unique hf'
  simp only at *
  subst hrule hname hn hrule' hname' hn'
  rfl

theorem rightUnique_isFailure : Relator.RightUnique P.IsFailure := by
  rintro r ⟨i, name, e⟩ ⟨i', name', e'⟩ ⟨hrule, hname, he⟩ ⟨hrule', hname', he'⟩
  obtain rfl := he.unique he'
  simp only at *
  subst hrule hname hrule' hname'
  rfl

/-- The mutation of a transaction is told by what changes. -/
theorem IsMutation.unique {t : Transaction} {m m' : Mutation} (h : P.IsMutation t m)
    (h' : P.IsMutation t m') : m = m' := by
  have hcategory : m.category = m'.category := by
    ext c
    rw [h.category, h'.category]
  have htags : m.addedTags = m'.addedTags := by
    have hne : ∀ {a b : Int}, a < b → a ≠ b := fun hlt => Int.ne_of_lt hlt
    have hperm : m.addedTags.Perm m'.addedTags :=
      (List.perm_ext_iff_of_nodup (h.ascending.imp hne) (h'.ascending.imp hne)).2 fun i => by
        rw [h.tags, h'.tags]
    exact hperm.eq_of_pairwise (fun a b _ _ hab hba => absurd hba (Int.lt_asymm hab)) h.ascending
      h'.ascending
  obtain ⟨i, category, tags⟩ := m
  obtain ⟨i', category', tags'⟩ := m'
  rw [Mutation.mk.injEq]
  exact ⟨h.transaction.trans h'.transaction.symm, hcategory, htags⟩

/-- Lists with the same keys are equal if members with the same key are. -/
theorem eq_of_map_eq {ms ms' : List Mutation}
    (hmap : ms.map (·.transaction) = ms'.map (·.transaction))
    (h : ∀ m ∈ ms, ∀ m' ∈ ms', m.transaction = m'.transaction → m = m') : ms = ms' := by
  induction ms generalizing ms' with
  | nil => exact (List.map_eq_nil_iff.1 hmap.symm).symm
  | cons m rest ih =>
      obtain ⟨m', rest', rfl, hm, hrest⟩ := List.map_eq_cons_iff.1 hmap.symm
      rw [h m (by simp) m' (by simp) hm.symm,
        ih hrest.symm fun a ha b hb => h a (by simp [ha]) b (by simp [hb])]

/-- **There are not two plans.** -/
theorem eq_of_isPlan (htransactions : (P.transactions.map (·.id)).Nodup) {p q : RulePlan}
    (hp : P.IsPlan p) (hq : P.IsPlan q) : p = q := by
  have hcounts : p.counts = q.counts := by
    obtain ⟨rs, hrs, hmem, hlines⟩ := hp.counts
    obtain ⟨rs', hrs', hmem', hlines'⟩ := hq.counts
    obtain rfl := eq_of_pairwise_before hrs hrs' fun r => (hmem r).trans (hmem' r).symm
    exact List.right_unique_forall₂' rightUnique_isCount hlines hlines'
  have hfailures : p.failures = q.failures := by
    obtain ⟨rs, hrs, hmem, hlines⟩ := hp.failures
    obtain ⟨rs', hrs', hmem', hlines'⟩ := hq.failures
    obtain rfl := eq_of_pairwise_before hrs hrs' fun r => (hmem r).trans (hmem' r).symm
    exact List.right_unique_forall₂' rightUnique_isFailure hlines hlines'
  have hids : ∀ {p q : RulePlan}, P.IsPlan p → P.IsPlan q → ∀ i,
      i ∈ p.mutations.map (·.transaction) → i ∈ q.mutations.map (·.transaction) := by
    intro p q hp hq i hi
    -- the id is that of a transaction that changes, so there is a mutation for it in both plans
    obtain ⟨t, ht, rfl⟩ := List.mem_map.1 (hp.ordered.subset hi)
    obtain ⟨m, hm, hid⟩ := List.mem_map.1 hi
    obtain ⟨m', hm', hid'⟩ := (hq.changes t ht).2 ((hp.changes t ht).1 ⟨m, hm, hid⟩)
    exact List.mem_map.2 ⟨m', hm', hid'⟩
  have hmutations : p.mutations = q.mutations := by
    have hmap := eq_of_sublist htransactions hp.ordered hq.ordered fun i =>
      ⟨hids hp hq i, hids hq hp i⟩
    refine eq_of_map_eq hmap fun m hm m' hm' hid => ?_
    obtain ⟨t, ht, hti⟩ := List.mem_map.1 (hp.ordered.subset (List.mem_map_of_mem hm))
    have hmut := hp.mutations t ht m hm hti.symm
    exact hmut.unique (hq.mutations t ht m' hm' (hid.symm.trans hti.symm))
  obtain ⟨mutations, counts, failures⟩ := p
  obtain ⟨mutations', counts', failures'⟩ := q
  rw [RulePlan.mk.injEq]
  exact ⟨hmutations, hcounts, hfailures⟩

end Problem

end Coffer.Rules
