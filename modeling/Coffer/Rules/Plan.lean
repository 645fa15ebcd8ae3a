/-
**What the rules would change.**

Rules apply in ascending order of their place, then of their id.  Every rule looks at the
transactions as they are, not as earlier rules left them.  A transaction gets the category of the
last rule that selects it and sets one, and the tags of all rules that select it.  What it has
already is no change.

A rule whose filter does not exist or cannot be read is left out and listed as a failure.

Main definitions:

* `Coffer.Rules.bind` — the enabled rules with their filters;
* `Coffer.Mutation`, `Coffer.Rules.mutation?` — what changes on one transaction;
* `Coffer.Rules.plan` — what changes, how much each rule selects, and what failed;
* `Coffer.Rules.DryRun`, `Coffer.Rules.Applied` — what is said of a plan before and after it is
  carried out.
-/

import Coffer.Filter.Expression

set_option autoImplicit false

namespace Coffer

/-- A change of category. -/
structure CategoryChange where
  before : Option Int
  after : Int
  deriving DecidableEq

/-- Everything that changes on one transaction. -/
structure Mutation where
  transaction : Int
  category : Option CategoryChange
  /-- The ids of the new tags, ascending. -/
  addedTags : List Int
  deriving DecidableEq

/-- How many transactions a rule selects. -/
structure RuleCount where
  rule : Int
  name : String
  count : Nat
  deriving DecidableEq

/-- Why a rule cannot be applied. -/
inductive BindingError where
  /-- The saved filter does not exist. -/
  | noFilter (id : Int)
  /-- The saved filter of this name cannot be read. -/
  | badFilter (name : String) (e : FilterError)
  deriving DecidableEq, Repr

/-- The wording of a binding error. -/
def BindingError.message : BindingError → String
  | .noFilter i => "saved filter " ++ toString i ++ " not found"
  | .badFilter name e => "saved filter '" ++ name ++ "': " ++ e.message

/-- A rule that cannot be applied, and why. -/
structure RuleFailure where
  rule : Int
  name : String
  reason : BindingError
  deriving DecidableEq

/-- What the rules would change. -/
structure RulePlan where
  mutations : List Mutation
  /-- The rules that can be applied, in their order. -/
  counts : List RuleCount
  failures : List RuleFailure
  deriving DecidableEq

namespace RulePlan

/-- The number of transactions that change. -/
def updated (p : RulePlan) : Nat := p.mutations.length

/-- The number of transactions whose category changes. -/
def categoryChanges (p : RulePlan) : Nat := p.mutations.countP fun m => m.category.isSome

/-- The number of transactions that get tags. -/
def tagChanges (p : RulePlan) : Nat := p.mutations.countP fun m => !m.addedTags.isEmpty

/-- The number of rules that cannot be applied. -/
def failedRules (p : RulePlan) : Nat := p.failures.length

end RulePlan

namespace Rules

/-! ### Binding -/

/-- A rule with its filter. -/
structure Bound where
  rule : Rule
  filter : Filter

/-- Whether one rule applies before another or is the same. -/
def applicationLe (a b : Rule) : Bool :=
  decide (a.sortOrder < b.sortOrder) || (a.sortOrder == b.sortOrder && decide (a.id ≤ b.id))

/-- The enabled rules in the order in which they apply. -/
def enabledInOrder (rules : List Rule) : List Rule :=
  (rules.filter (·.enabled)).mergeSort applicationLe

/-- The filter of a rule. -/
def boundFilter (savedFilters : Index SavedFilter) (r : Rule) : Except BindingError Filter :=
  Filter.ofSaved savedFilters (.noFilter r.filter) (fun saved => .badFilter saved.name) r.filter

/-- The rules of a list that have a filter. -/
def bind (savedFilters : Index SavedFilter) (rules : List Rule) : List Bound :=
  rules.filterMap fun r => (boundFilter savedFilters r).toOption.map (Bound.mk r)

/-- The rules of a list that have none. -/
def failures (savedFilters : Index SavedFilter) (rules : List Rule) : List RuleFailure :=
  rules.filterMap fun r =>
    match boundFilter savedFilters r with
    -- what has a filter is found by `bind`
    | .ok _ => none
    | .error e => some ⟨r.id, r.name, e⟩

/-! ### Changes -/

/-- The last of the values that some of the rules give. -/
def lastCategory (rules : List Rule) : Option Int := (rules.filterMap (·.setCategory)).getLast?

/-- The change of category of a transaction, if the category set last is another one. -/
def categoryChange? (t : Transaction) (rules : List Rule) : Option CategoryChange :=
  match lastCategory rules with
  | some c => if t.category = some c then none else some ⟨t.category, c⟩
  | none => none

/-- The tags that the rules add to those a transaction has, ascending. -/
def addedTags (tags : List Tag) (rules : List Rule) : List Int :=
  ascending ((rules.flatMap (·.addTags)).filter fun i => !(tags.map Tag.id).contains i)

/-- What the rules that select a transaction change on it, if they change anything. -/
def mutation? (t : Transaction) (tags : List Tag) (rules : List Rule) : Option Mutation :=
  let category := categoryChange? t rules
  let added := addedTags tags rules
  if category.isNone && added.isEmpty then none else some ⟨t.id, category, added⟩

/-- **What the rules would change** on the transactions in a scope. -/
def plan (catalog : Catalog) (tagMap : TagMap) (savedFilters : Index SavedFilter)
    (scope : AccountScope) (transactions : List Transaction) (rules : List Rule) : RulePlan :=
  let ordered := enabledInOrder rules
  let bound := bind savedFilters ordered
  let inScope := transactions.filter scope.holds
  let view := fun t : Transaction => catalog.view t (tagMap.tagsOf t.id)
  -- the transactions are the same for all rules: no rule sees what another one changes
  { mutations := inScope.filterMap fun t =>
      mutation? t (tagMap.tagsOf t.id)
        ((bound.filter fun b => b.filter.selects (view t)).map Bound.rule)
    counts := bound.map fun b =>
      ⟨b.rule.id, b.rule.name, inScope.countP fun t => b.filter.selects (view t)⟩
    failures := failures savedFilters ordered }

/-! ### Dry run -/

/-- How many transactions would change. -/
structure DryRunSummary where
  modified : Nat
  categoryChanges : Nat
  tagChanges : Nat
  deriving DecidableEq

/-- What applying the rules would come to. -/
structure DryRun where
  /-- The rules that can be applied, in their order. -/
  perRule : List RuleCount
  summary : DryRunSummary
  failedRules : Nat
  failures : List RuleFailure
  deriving DecidableEq

/-- What a plan would come to. -/
def DryRun.ofPlan (p : RulePlan) : DryRun where
  perRule := p.counts
  summary := ⟨p.updated, p.categoryChanges, p.tagChanges⟩
  failedRules := p.failedRules
  failures := p.failures

/-! ### Application -/

/-- What came of applying the rules. -/
structure Applied where
  updated : Nat
  categoryChanges : Nat
  tagChanges : Nat
  failedRules : Nat
  failures : List RuleFailure
  deriving DecidableEq

/-- What came of a plan that was carried out. -/
def Applied.ofPlan (p : RulePlan) : Applied :=
  ⟨p.updated, p.categoryChanges, p.tagChanges, p.failedRules, p.failures⟩

/-- **Carries out a plan:** its changes are handed on as one batch, unless there are none. -/
def carryOut {m : Type → Type} [Monad m] (sink : List Mutation → m Unit) (p : RulePlan) :
    m Applied := do
  if !p.mutations.isEmpty then sink p.mutations
  return .ofPlan p

end Rules

end Coffer
