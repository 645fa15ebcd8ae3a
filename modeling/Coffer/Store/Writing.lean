/-
**Writing to the store.**

Every operation either succeeds, with an answer and the tables after it, or is refused with a cause
and has no effect at all.  An operation of several steps is refused if one of its steps is.

An amount that is not a number is no value, and negative zero is kept as zero.

Main definitions:

* `Coffer.OverrideTable` — the tables of amounts for single periods;
* one function for each operation, from `Coffer.Store.ensureAccount` to `Coffer.Store.addOffset`;
* `Coffer.Operation`, `Coffer.Store.perform` — the operations as data;
* `Coffer.Store.run` — the store after a row of operations, refused ones included.
-/

import Coffer.Rules.Plan
import Coffer.Store.Tables

set_option autoImplicit false

namespace Coffer

/-! ### Amounts for single periods -/

/-- A list with a record under its key: it replaces the records that are there under the key, or
else it is entered. -/
def upsert {α κ : Type} [DecidableEq κ] (key : α → κ) (new : α) (xs : List α) : List α :=
  if xs.any fun a => key a = key new then xs.map fun a => if key a = key new then new else a
  else xs ++ [new]

/-- **A table of amounts for single periods.** Each row is about a record, given by its id, and
about a period, given by its key. -/
structure OverrideTable (α : Type) where
  /-- The name of the column of the amounts. -/
  column : String
  /-- Whether there is a record with an id, so that amounts can be set for it. -/
  hasOwner : Store → Int → Bool
  rows : Store → List α
  put : Store → List α → Store
  key : α → Int × String
  amount : α → Float
  row : Int × String → Float → α
  rows_put : ∀ s xs, rows (put s xs) = xs
  key_row : ∀ k x, key (row k x) = k
  amount_row : ∀ k x, amount (row k x) = x

namespace OverrideTable

/-- The amounts of budgets for single months. -/
def budgets : OverrideTable BudgetOverride where
  column := "budget_overrides.amount"
  hasOwner := Store.hasBudget
  rows := Store.budgetOverrides
  put s rows := { s with budgetOverrides := rows }
  key o := (o.budget, o.month)
  amount := BudgetOverride.amount
  row k x := ⟨k.1, k.2, x⟩
  rows_put _ _ := rfl
  key_row _ _ := rfl
  amount_row _ _ := rfl

/-- The amounts of targets for single periods. -/
def targets : OverrideTable TargetOverride where
  column := "target_overrides.amount"
  hasOwner := Store.hasTarget
  rows := Store.targetOverrides
  put s rows := { s with targetOverrides := rows }
  key o := (o.target, o.period)
  amount := TargetOverride.amount
  row k x := ⟨k.1, k.2, x⟩
  rows_put _ _ := rfl
  key_row _ _ := rfl
  amount_row _ _ := rfl

end OverrideTable

namespace Store

/-! ### Checks -/

/-- An amount as it is kept, or the refusal of one that is not a number. -/
def keepAmount (column : String) (x : Float) : Except StoreError Float :=
  if x.isNaN then .error (.missingValue column)
  -- both zeros are equal to zero, and one of them is kept
  else if x == 0 then .ok 0
  else .ok x

/-- Refuses a reference to a record that is not there. -/
def demand (isThere : Bool) : Except StoreError Unit :=
  if isThere then .ok () else .error .foreignKey

/-- Refuses a reference that is given and whose record is not there. -/
def demandOpt (isThere : Int → Bool) (i : Option Int) : Except StoreError Unit :=
  match i with
  | some i => demand (isThere i)
  | none => .ok ()

/-! ### Names -/

/-- The id of the account of a name, which is made if need be. -/
def ensureAccount (name : String) (s : Store) : Int × Store :=
  match s.accountNamed? name with
  | some a => (a.id, s)
  | none =>
    let i := freshId (s.accounts.map Account.id)
    (i, { s with accounts := s.accounts ++ [⟨i, name⟩] })

/-- The id of the category of a name, which is made if need be; one that is there stays as it is. -/
def ensureCategory (name : String) (sortOrder : Int) (color : Option String) (s : Store) :
    Int × Store :=
  match s.categoryNamed? name with
  | some c => (c.id, s)
  | none =>
    let i := freshId (s.categories.map Category.id)
    (i, { s with categories := s.categories ++ [⟨i, name, sortOrder, color⟩] })

/-- The id of the tag of a name, which is made if need be; one that is there stays as it is. -/
def ensureTag (name : String) (color : Option String) (s : Store) : Int × Store :=
  match s.tagNamed? name with
  | some t => (t.id, s)
  | none =>
    let i := freshId (s.tags.map Tag.id)
    (i, { s with tags := s.tags ++ [⟨i, name, color⟩] })

/-! ### Transactions -/

/-- Enters a transaction. -/
def addTransaction (p : Posting) (s : Store) : Except StoreError (Int × Store) := do
  let amount ← keepAmount "transactions.amount" p.amount
  demandOpt s.hasAccount p.account
  demandOpt s.hasCategory p.category
  let i := freshId (s.transactions.map TransactionRow.id)
  let row : TransactionRow :=
    ⟨i, p.account, p.date.iso, p.dateRaw, p.description, amount, p.category⟩
  return (i, { s with transactions := s.transactions ++ [row] })

/-- Gives the transaction with this id, if there is one, a category or none. -/
def categorize (transaction : Int) (category : Option Int) (s : Store) :
    Except StoreError Store := do
  if s.hasTransaction transaction then
    demandOpt s.hasCategory category
    return { s with transactions := s.transactions.map fun t =>
      if t.id = transaction then { t with category := category } else t }
  else return s

/-- Attaches a tag to a transaction; a tag that is attached already keeps its source. -/
def attachTag (transaction tag : Int) (source : TagSource) (s : Store) :
    Except StoreError Store := do
  if s.links.any fun l => l.transaction == transaction && l.tag == tag then return s
  else
    demand (s.hasTransaction transaction)
    demand (s.hasTag tag)
    return { s with links := s.links ++ [⟨transaction, tag, source.name⟩] }

/-! ### Saved filters -/

/-- Saves a filter text under a name that is not taken. -/
def addFilter (name expression : String) (s : Store) : Except StoreError (Int × Store) :=
  if s.filters.any (·.name == name) then .error (.duplicate "saved_filters.name")
  else
    let i := freshId (s.filters.map SavedFilter.id)
    .ok (i, { s with filters := s.filters ++ [⟨i, name, expression⟩] })

/-- Deletes a saved filter, and says whether there was one; what is bound to it stays. -/
def deleteFilter (i : Int) (s : Store) : Bool × Store :=
  (s.filters.any (·.id == i), { s with filters := s.filters.filter (·.id != i) })

/-! ### Rules -/

/-- Enters a rule, enabled; its filter need not exist. -/
def addRule (d : RuleDraft) (s : Store) : Except StoreError (Int × Store) := do
  demandOpt s.hasCategory d.setCategory
  demand (d.addTags.all s.hasTag)
  let i := freshId (s.rules.map Rule.id)
  -- a tag that is named twice is added once
  let r : Rule := { d with addTags := ascending d.addTags, id := i, enabled := true }
  return (i, { s with rules := s.rules ++ [r] })

/-- Enables or disables a rule, and says whether there is one. -/
def enableRule (i : Int) (enabled : Bool) (s : Store) : Bool × Store :=
  (s.rules.any (·.id == i),
    { s with rules := s.rules.map fun r => if r.id = i then { r with enabled := enabled } else r })

/-- Deletes a rule with its tags, and says whether there was one. -/
def deleteRule (i : Int) (s : Store) : Bool × Store :=
  (s.rules.any (·.id == i), { s with rules := s.rules.filter (·.id != i) })

/-- Writes what changes on one transaction. -/
def writeMutation (m : Mutation) (s : Store) : Except StoreError Store := do
  let s ← match m.category with
    | some c => s.categorize m.transaction (some c.after)
    | none => .ok s
  m.addedTags.foldlM (fun s tag => s.attachTag m.transaction tag .rule) s

/-- Writes what a plan changes, all of it or nothing. -/
def writeMutations (ms : List Mutation) (s : Store) : Except StoreError Store :=
  ms.foldlM (fun s m => s.writeMutation m) s

/-! ### Budgets and targets -/

/-- Sets the budget of a category, which is made if need be. -/
def setBudget (category : Int) (x : Float) (s : Store) : Except StoreError (Int × Store) := do
  let amount ← keepAmount "category_budgets.amount" x
  match s.budgetOf? category with
  | some b =>
    return (b.id, { s with budgets := s.budgets.map fun b =>
      if b.category = category then { b with amount := amount } else b })
  | none =>
    demand (s.hasCategory category)
    let i := freshId (s.budgets.map Budget.id)
    return (i, { s with budgets := s.budgets ++ [⟨i, category, amount⟩] })

/-- Sets an amount for a record and a period, over the one that was set before. -/
def override {α : Type} (T : OverrideTable α) (key : Int × String) (x : Float) (s : Store) :
    Except StoreError Store := do
  let amount ← keepAmount T.column x
  demand (T.hasOwner s key.1)
  return T.put s (upsert T.key (T.row key amount) (T.rows s))

/-- Sets the amount of a budget for one month. -/
def overrideBudget (budget : Int) (month : String) (x : Float) (s : Store) :
    Except StoreError Store :=
  s.override .budgets (budget, month) x

/-- Enters a target; its filter need not exist. -/
def addTarget (name : String) (filter : Int) (period : PeriodKind) (x : Float) (s : Store) :
    Except StoreError (Int × Store) := do
  let amount ← keepAmount "spending_targets.amount" x
  let i := freshId (s.targets.map TargetRow.id)
  return (i, { s with targets := s.targets ++ [⟨i, name, filter, period.name, amount⟩] })

/-- Sets the amount of a target for one period. -/
def overrideTarget (target : Int) (period : String) (x : Float) (s : Store) :
    Except StoreError Store :=
  s.override .targets (target, period) x

/-- Records how much of a credit makes up for a debit. -/
def addOffset (credit debit : Int) (x : Float) (s : Store) : Except StoreError (Int × Store) := do
  let amount ← keepAmount "credit_offsets.amount" x
  demand (s.hasTransaction credit)
  demand (s.hasTransaction debit)
  let i := freshId (s.offsets.map CreditOffset.id)
  return (i, { s with offsets := s.offsets ++ [⟨i, credit, debit, amount⟩] })

end Store

/-! ### Operations as data -/

/-- An operation on the store. -/
inductive Operation where
  | ensureAccount (name : String)
  | ensureCategory (name : String) (sortOrder : Int) (color : Option String)
  | ensureTag (name : String) (color : Option String)
  | addTransaction (p : Posting)
  | categorize (transaction : Int) (category : Option Int)
  | attachTag (transaction tag : Int) (source : TagSource)
  | addFilter (name expression : String)
  | deleteFilter (id : Int)
  | addRule (draft : RuleDraft)
  | enableRule (id : Int) (enabled : Bool)
  | deleteRule (id : Int)
  | writeMutations (ms : List Mutation)
  | setBudget (category : Int) (amount : Float)
  | overrideBudget (budget : Int) (month : String) (amount : Float)
  | addTarget (name : String) (filter : Int) (period : PeriodKind) (amount : Float)
  | overrideTarget (target : Int) (period : String) (amount : Float)
  | addOffset (credit debit : Int) (amount : Float)

/-- What an operation answers. -/
inductive Answer where
  /-- The id of the record that it made or found. -/
  | id (i : Int)
  /-- Whether there was a record. -/
  | found (b : Bool)
  | done
  deriving DecidableEq

namespace Store

/-- The outcome of an operation that answers with an id. -/
def withId : Int × Store → Answer × Store
  | (i, s) => (.id i, s)

/-- The outcome of an operation that answers whether there was a record. -/
def withFound : Bool × Store → Answer × Store
  | (b, s) => (.found b, s)

/-- The outcome of an operation without an answer. -/
def withDone (s : Store) : Answer × Store := (.done, s)

/-- **Performs an operation.** -/
def perform (s : Store) : Operation → Except StoreError (Answer × Store)
  | .ensureAccount name => .ok (withId (s.ensureAccount name))
  | .ensureCategory name sortOrder color => .ok (withId (s.ensureCategory name sortOrder color))
  | .ensureTag name color => .ok (withId (s.ensureTag name color))
  | .addTransaction p => (s.addTransaction p).map withId
  | .categorize t c => (s.categorize t c).map withDone
  | .attachTag t g source => (s.attachTag t g source).map withDone
  | .addFilter name expression => (s.addFilter name expression).map withId
  | .deleteFilter i => .ok (withFound (s.deleteFilter i))
  | .addRule d => (s.addRule d).map withId
  | .enableRule i b => .ok (withFound (s.enableRule i b))
  | .deleteRule i => .ok (withFound (s.deleteRule i))
  | .writeMutations ms => (s.writeMutations ms).map withDone
  | .setBudget c x => (s.setBudget c x).map withId
  | .overrideBudget b month x => (s.overrideBudget b month x).map withDone
  | .addTarget name f p x => (s.addTarget name f p x).map withId
  | .overrideTarget g p x => (s.overrideTarget g p x).map withDone
  | .addOffset c d x => (s.addOffset c d x).map withId

/-- The store after an operation; one that is refused has no effect. -/
def after (s : Store) (op : Operation) : Store :=
  match s.perform op with
  | .ok (_, s') => s'
  | .error _ => s

/-- **The store after a row of operations.** -/
def run (s : Store) (ops : List Operation) : Store := ops.foldl after s

end Store

end Coffer
