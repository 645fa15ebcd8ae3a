/-
**The store: tables of records.**

Records are kept in the order in which they were entered, which is the order of their ids: a new
record gets the id after the greatest one in its table.  Dates, period lengths and tag sources are
kept as texts, and are only as good as what was written into them.

Main definitions:

* `Coffer.TransactionRow`, `Coffer.TargetRow`, `Coffer.TagLink` — records with stored texts;
* `Coffer.Store`, `Coffer.Store.empty` — the tables;
* `Coffer.Store.freshId` — the id of a new record.

Main results: `Coffer.Store.lt_freshId` — a new id is greater than all that are there.
-/

import Coffer.Ledger.Ids
import Coffer.Ledger.Record
import Coffer.Error
import Coffer.Text.Caseless

set_option autoImplicit false

namespace Coffer

/-- A transaction as it is stored. -/
structure TransactionRow where
  id : Int
  account : Option Int
  /-- The text of the date. -/
  date : String
  dateRaw : Option String
  description : String
  amount : Float
  category : Option Int
  deriving DecidableEq

/-- A tag on a transaction. -/
structure TagLink where
  transaction : Int
  tag : Int
  /-- The name of the source. -/
  source : String
  deriving DecidableEq

/-- A target as it is stored. -/
structure TargetRow where
  id : Int
  name : String
  filter : Int
  /-- The name of the period length. -/
  period : String
  amount : Float
  deriving DecidableEq

/-- **The tables of the store.** -/
structure Store where
  accounts : List Account
  categories : List Category
  tags : List Tag
  transactions : List TransactionRow
  links : List TagLink
  filters : List SavedFilter
  /-- Rules, each with the ids of its tags in ascending order. -/
  rules : List Rule
  budgets : List Budget
  budgetOverrides : List BudgetOverride
  targets : List TargetRow
  targetOverrides : List TargetOverride
  offsets : List CreditOffset
  deriving DecidableEq

namespace Store

/-- The store without records. -/
def empty : Store := ⟨[], [], [], [], [], [], [], [], [], [], [], []⟩

/-- The id of a new record of a table with these ids. -/
def freshId (ids : List Int) : Int := ids.foldl max 0 + 1

theorem le_foldl_max (ids : List Int) (a : Int) :
    a ≤ ids.foldl max a ∧ ∀ i ∈ ids, i ≤ ids.foldl max a := by
  induction ids generalizing a with
  | nil => simp
  | cons j rest ih =>
      have h := ih (max a j)
      refine ⟨by simp only [List.foldl_cons]; omega, ?_⟩
      intro i hi
      simp only [List.foldl_cons]
      rcases List.mem_cons.1 hi with rfl | hi
      · omega
      · exact h.2 i hi

/-- A new id is greater than all that are there. -/
theorem lt_freshId {i : Int} {ids : List Int} (h : i ∈ ids) : i < freshId ids := by
  have := (le_foldl_max ids 0).2 i h
  unfold freshId
  omega

/-! ### What is there -/

/-- Whether there is an account with this id. -/
def hasAccount (s : Store) (i : Int) : Bool := s.accounts.any (·.id == i)

/-- Whether there is a category with this id. -/
def hasCategory (s : Store) (i : Int) : Bool := s.categories.any (·.id == i)

/-- Whether there is a tag with this id. -/
def hasTag (s : Store) (i : Int) : Bool := s.tags.any (·.id == i)

/-- Whether there is a transaction with this id. -/
def hasTransaction (s : Store) (i : Int) : Bool := s.transactions.any (·.id == i)

/-- Whether there is a budget with this id. -/
def hasBudget (s : Store) (i : Int) : Bool := s.budgets.any (·.id == i)

/-- Whether there is a target with this id. -/
def hasTarget (s : Store) (i : Int) : Bool := s.targets.any (·.id == i)

/-- The account of a name, to the letter. -/
def accountNamed? (s : Store) (name : String) : Option Account := s.accounts.find? (·.name == name)

/-- The category of a name, in any letter case. -/
def categoryNamed? (s : Store) (name : String) : Option Category :=
  s.categories.find? fun c => Text.sameName c.name name

/-- The tag of a name, in any letter case. -/
def tagNamed? (s : Store) (name : String) : Option Tag :=
  s.tags.find? fun t => Text.sameName t.name name

/-- The saved filter with this id. -/
def filter? (s : Store) (i : Int) : Option SavedFilter := s.filters.find? (·.id == i)

/-- The budget of a category. -/
def budgetOf? (s : Store) (category : Int) : Option Budget :=
  s.budgets.find? (·.category == category)

end Store

end Coffer
