/-
**Rules that do not read what rules write.**

Rules write categories and tags.  A filter whose leaves ask for descriptions, accounts, dates and
amounts only does not see them, and selects a transaction before the rules are applied exactly if it
does so afterwards.  If all rules have such filters, then a plan that has been carried out leaves
nothing to be done: every transaction has the category of the last rule that selects it and sets
one, and the tags of all rules that select it.

Main definitions:

* `Coffer.View.AlikeButLabels` — two views differ only in what rules write;
* `Coffer.Filter.ignoresLabels` — no leaf of a filter asks for what rules write;
* `Coffer.Rules.relabelled` — a transaction with the category that changes give it;
* `Coffer.Rules.ReadNoLabels` — the filters of some rules ignore labels;
* `Coffer.Rules.Problem.CarriedOut` — what is left of a problem when its plan has been carried out.

Main results:

* `Coffer.Filter.selects_congr` — **a filter that ignores labels does not see what rules write;**
* `Coffer.Rules.Problem.find?_mutations` — every transaction in scope has its change in the plan;
* `Coffer.Rules.Problem.CarriedOut.plan_eq` — **a plan that has been carried out leaves nothing to
  do.**
-/

import Coffer.Proofs.Filter.Grammar
import Coffer.Proofs.Rules.PlanSpec
import Coffer.Proofs.Store.Keys

set_option autoImplicit false

namespace Coffer

/-! ### Views -/

/-- Two views differ in category and tags only, as far as rules can tell. -/
structure View.AlikeButLabels (v v' : View) : Prop where
  date : v'.transaction.date = v.transaction.date
  description : v'.transaction.description = v.transaction.description
  amount : v'.transaction.amount = v.transaction.amount
  account : v'.account = v.account

variable {v v' : View}

/-- A predicate about neither category nor tags does not see what rules write. -/
theorem Predicate.selects_congr {p : Predicate} (hcategory : p.field ≠ .category)
    (htag : p.field ≠ .tag) (h : v.AlikeButLabels v') : p.selects v' = p.selects v := by
  obtain ⟨field, comparison, value⟩ := p
  cases field with
  | category => exact absurd rfl hcategory
  | tag => exact absurd rfl htag
  | description => cases value <;> simp only [selects, h.description]
  | account => cases value <;> simp only [selects, h.account]
  | date => cases value <;> simp only [selects, h.date]
  | amount => cases value <;> simp only [selects, h.amount]

namespace Filter

variable {f : Filter}

/-- Whether a leaf does not ask for what rules write. -/
def asksNoLabel : Filter → Bool
  | .field p => p.field != .category && p.field != .tag
  | .text _ scope => scope == .description
  -- inner nodes are no leaves
  | .all _ | .any _ => false

/-- **Whether no leaf of a filter asks for what rules write.** -/
def ignoresLabels (f : Filter) : Bool := f.leaves.all asksNoLabel

theorem ignoresLabels_node (k : Kind) (fs : List Filter) :
    (k.node fs).ignoresLabels = fs.all ignoresLabels := by
  rw [ignoresLabels, leaves_node, List.all_flatMap]
  rfl

/-- **A filter that ignores labels does not see what rules write.** -/
theorem selects_congr (hf : f.ignoresLabels = true) (h : v.AlikeButLabels v') :
    f.selects v' = f.selects v := by
  induction f with
  | field p =>
      simp only [ignoresLabels, leaves, List.all_cons, List.all_nil, asksNoLabel, Bool.and_true,
        Bool.and_eq_true, bne_iff_ne] at hf
      exact p.selects_congr hf.1 hf.2 h
  | text s scope =>
      simp only [ignoresLabels, leaves, List.all_cons, List.all_nil, asksNoLabel, Bool.and_true,
        beq_iff_eq] at hf
      subst hf
      simp only [selects, findsText, h.description]
  | node k parts ih =>
      rw [ignoresLabels_node, List.all_eq_true] at hf
      rw [selects_node, selects_node]
      exact k.test_congr fun g hg => ih g hg (hf g hg)

end Filter

namespace Rules

variable {t : Transaction} {tags tags' : List Tag} {rs : List Rule} {ms : List Mutation} {c : Int}

/-! ### Transactions -/

/-- A transaction with the category that changes give it, if they give it one. -/
def relabelled (ms : List Mutation) (t : Transaction) : Transaction :=
  match (ms.find? (·.transaction == t.id)).bind Mutation.category with
  | some change => { t with category := some change.after }
  | none => t

/-- Only the category becomes another one. -/
theorem relabelled_eq (ms : List Mutation) (t : Transaction) :
    relabelled ms t = { t with category := (relabelled ms t).category } := by
  unfold relabelled
  split <;> rfl

@[simp] theorem id_relabelled (ms : List Mutation) (t : Transaction) :
    (relabelled ms t).id = t.id := by
  rw [relabelled_eq]

@[simp] theorem account_relabelled (ms : List Mutation) (t : Transaction) :
    (relabelled ms t).account = t.account := by
  rw [relabelled_eq]

@[simp] theorem holds_relabelled (scope : AccountScope) (ms : List Mutation) (t : Transaction) :
    scope.holds (relabelled ms t) = scope.holds t := by
  rw [AccountScope.holds, account_relabelled, ← AccountScope.holds]

/-- What changes on a transaction does not show in its view but for category and tags. -/
theorem alikeButLabels_view (catalog : Catalog) (ms : List Mutation) (t : Transaction)
    (tags tags' : List Tag) :
    (catalog.view t tags).AlikeButLabels (catalog.view (relabelled ms t) tags') := by
  rw [relabelled_eq]
  exact ⟨rfl, rfl, rfl, rfl⟩

theorem bind_category_mutation? (t : Transaction) (tags : List Tag) (rs : List Rule) :
    (mutation? t tags rs).bind Mutation.category = categoryChange? t rs := by
  unfold mutation?
  dsimp only
  split
  · next h =>
      rw [Bool.and_eq_true, Option.isNone_iff_eq_none] at h
      exact h.1.symm
  · rfl

/-- Nothing changes on a transaction that has the category and the tags of the rules. -/
theorem mutation?_eq_none (hcategory : ∀ c, lastCategory rs = some c → t.category = some c)
    (htags : ∀ r ∈ rs, ∀ i ∈ r.addTags, i ∈ tags.map Tag.id) : mutation? t tags rs = none := by
  rw [Option.eq_none_iff_forall_ne_some]
  intro m hm
  rcases (Problem.mutation?_eq_some_iff.1 hm).2 with ⟨change, hchange⟩ | ⟨i, hi⟩
  · obtain ⟨-, hne, hlast⟩ := Problem.categoryChange?_eq_some_iff.1 hchange
    exact hne (hcategory _ hlast)
  · obtain ⟨⟨r, hr, hadd⟩, hnew⟩ := mem_addedTags_iff.1 hi
    obtain ⟨g, hg, hid⟩ := List.mem_map.1 (htags r hr i hadd)
    exact hnew g hg hid

/-- **Rules that do not read what rules write:** the filters that the enabled ones are bound to
ignore labels. -/
def ReadNoLabels (savedFilters : Index SavedFilter) (rs : List Rule) : Prop :=
  ∀ r ∈ rs, r.enabled = true → ∀ f, Binds savedFilters r f → f.ignoresLabels = true

namespace Problem

variable {P P' : Problem}

/-! ### Every change in its place -/

/-- **Every transaction in scope has its change in the plan.** -/
theorem find?_mutations (hids : (P.transactions.map (·.id)).Nodup) (ht : t ∈ P.transactions)
    (hscope : P.scope.holds t = true) :
    P.plan.mutations.find? (·.transaction == t.id) =
      mutation? t (P.tagMap.tagsOf t.id) (P.selecting P.bound t) := by
  refine Option.ext fun m => ?_
  rw [find?_id_eq_some_iff (nodup_mutations hids), mem_mutations_iff]
  constructor
  · rintro ⟨⟨t', ht', -, hm⟩, hid⟩
    have htid : m.transaction = t'.id :=
      congrArg Mutation.transaction (mutation?_eq_some_iff.1 hm).1
    obtain rfl := List.inj_on_of_nodup_map hids ht' ht (htid.symm.trans hid)
    exact hm
  · intro hm
    exact ⟨⟨t, ht, hscope, hm⟩, congrArg Mutation.transaction (mutation?_eq_some_iff.1 hm).1⟩

/-- A transaction gets the category of the last rule that selects it and sets one. -/
theorem category_relabelled (hids : (P.transactions.map (·.id)).Nodup) (ht : t ∈ P.transactions)
    (hscope : P.scope.holds t = true) (hlast : lastCategory (P.selecting P.bound t) = some c) :
    (relabelled P.plan.mutations t).category = some c := by
  unfold relabelled
  rw [find?_mutations hids ht hscope, bind_category_mutation?, categoryChange?, hlast]
  dsimp only
  split_ifs with hsame
  · exact hsame
  · rfl

/-! ### What is left -/

/-- **What is left of a problem when its plan has been carried out:** the transactions have their
categories, and carry the tags that they carried before and those that were added. -/
structure CarriedOut (P P' : Problem) : Prop where
  catalog : P'.catalog = P.catalog
  savedFilters : P'.savedFilters = P.savedFilters
  scope : P'.scope = P.scope
  rules : P'.rules = P.rules
  transactions : P'.transactions = P.transactions.map (relabelled P.plan.mutations)
  carried : ∀ i, ∀ g ∈ P.tagMap.tagsOf i, g.id ∈ (P'.tagMap.tagsOf i).map Tag.id
  added : ∀ m ∈ P.plan.mutations, ∀ i ∈ m.addedTags,
    i ∈ (P'.tagMap.tagsOf m.transaction).map Tag.id

namespace CarriedOut

/-- All tags of the rules that select a transaction are on it. -/
theorem mem_tagsOf (h : P.CarriedOut P') (ht : t ∈ P.transactions) (hscope : P.scope.holds t = true)
    {r : Rule} (hr : r ∈ P.selecting P.bound t) {i : Int} (hi : i ∈ r.addTags) :
    i ∈ (P'.tagMap.tagsOf t.id).map Tag.id := by
  by_cases hold : ∃ g ∈ P.tagMap.tagsOf t.id, g.id = i
  · obtain ⟨g, hg, rfl⟩ := hold
    exact h.carried t.id g hg
  · have hadded : i ∈ addedTags (P.tagMap.tagsOf t.id) (P.selecting P.bound t) :=
      mem_addedTags_iff.2 ⟨⟨r, hr, hi⟩, fun g hg hid => hold ⟨g, hg, hid⟩⟩
    obtain ⟨m, hm⟩ : ∃ m, mutation? t (P.tagMap.tagsOf t.id) (P.selecting P.bound t) = some m :=
      ⟨_, mutation?_eq_some_iff.2 ⟨rfl, .inr ⟨i, hadded⟩⟩⟩
    have hmem : m ∈ P.plan.mutations := mem_mutations_iff.2 ⟨t, ht, hscope, hm⟩
    obtain ⟨rfl, -⟩ := mutation?_eq_some_iff.1 hm
    exact h.added _ hmem i hadded

/-- The rules are bound to the same filters. -/
theorem bound_eq (h : P.CarriedOut P') : P'.bound = P.bound := by
  rw [bound, h.savedFilters, h.rules, ← bound]

theorem failures_eq (h : P.CarriedOut P') : P'.plan.failures = P.plan.failures := by
  show Rules.failures P'.savedFilters (enabledInOrder P'.rules) = _
  rw [h.savedFilters, h.rules]
  rfl

/-- The transactions in scope are those that were in scope. -/
theorem inScope_eq (h : P.CarriedOut P') : P'.transactions.filter P'.scope.holds =
    (P.transactions.filter P.scope.holds).map (relabelled P.plan.mutations) := by
  rw [h.transactions, h.scope, List.filter_map]
  congr 1
  exact List.filter_congr fun t _ => holds_relabelled _ _ _

section Labels

variable (hlabels : ReadNoLabels P.savedFilters P.rules)

include hlabels

/-- A rule selects the transactions that it selected before. -/
theorem selects_view (h : P.CarriedOut P') {b : Bound} (hb : b ∈ P.bound) (t : Transaction) :
    b.filter.selects (P'.view (relabelled P.plan.mutations t)) = b.filter.selects (P.view t) := by
  obtain ⟨hr, hbinds⟩ := mem_bind_iff.1 hb
  obtain ⟨hrule, henabled⟩ := mem_enabledInOrder_iff.1 hr
  rw [view, view, h.catalog]
  exact Filter.selects_congr (hlabels _ hrule henabled _ hbinds) (alikeButLabels_view _ _ _ _ _)

theorem selecting_eq (h : P.CarriedOut P') (t : Transaction) :
    P'.selecting P'.bound (relabelled P.plan.mutations t) = P.selecting P.bound t := by
  rw [selecting, h.bound_eq, List.filter_congr fun b hb => selects_view hlabels h hb t, ← selecting]

/-- Every rule selects as many transactions as before. -/
theorem counts_eq (h : P.CarriedOut P') : P'.plan.counts = P.plan.counts := by
  show P'.bound.map _ = P.bound.map _
  rw [h.bound_eq]
  refine List.map_congr_left fun b hb => ?_
  rw [h.inScope_eq, List.countP_map]
  congr 1
  refine List.countP_congr fun t _ => ?_
  have hselects := selects_view hlabels h hb t
  exact iff_of_eq (congrArg (· = true) hselects)

/-- Nothing changes any more: every transaction has its category and its tags. -/
theorem mutations_eq_nil (h : P.CarriedOut P') (hids : (P.transactions.map (·.id)).Nodup) :
    P'.plan.mutations = [] := by
  refine List.eq_nil_iff_forall_not_mem.2 fun m hm => ?_
  obtain ⟨t', ht', hscope, hmutation⟩ := mem_mutations_iff.1 hm
  rw [h.transactions] at ht'
  obtain ⟨t, ht, rfl⟩ := List.mem_map.1 ht'
  rw [h.scope, holds_relabelled] at hscope
  rw [id_relabelled, selecting_eq hlabels h, mutation?_eq_none] at hmutation
  · cases hmutation
  · exact fun c hlast => category_relabelled hids ht hscope hlast
  · exact fun r hr i hi => h.mem_tagsOf ht hscope hr hi

/-- **A plan that has been carried out leaves nothing to do,** if no rule reads what rules write. -/
theorem plan_eq (h : P.CarriedOut P') (hids : (P.transactions.map (·.id)).Nodup) :
    P'.plan = ⟨[], P.plan.counts, P.plan.failures⟩ := by
  have hmutations := mutations_eq_nil hlabels h hids
  have hcounts := counts_eq hlabels h
  have hfailures := h.failures_eq
  rw [← hmutations, ← hcounts, ← hfailures]

end Labels

end CarriedOut

end Problem

end Rules

end Coffer
