/-
**Names for ids, and the accounts that are looked at.**

Transactions carry ids, filters speak of names.  The catalog resolves a transaction into a *view*
that holds everything a filter can ask about.  An account scope says which accounts are looked at:
all of them, or a set of them, and then not the transactions without account.

Main definitions: `Coffer.Catalog`, `Coffer.View`, `Coffer.Catalog.view`, `Coffer.AccountScope`.

Main results: `Coffer.AccountScope.mem_only_iff` — a scope of listed accounts has exactly those.
-/

import Coffer.Ledger.Ids
import Coffer.Ledger.Index
import Coffer.Ledger.Record

set_option autoImplicit false

namespace Coffer

/-! ### The catalog -/

/-- Categories, accounts and tags by id. -/
structure Catalog where
  categories : Index Category
  accounts : Index Account
  tags : Index Tag

/-- The catalog of lists of records; of two records under one id the later counts. -/
def Catalog.ofRecords (categories : List Category) (accounts : List Account) (tags : List Tag) :
    Catalog :=
  ⟨Index.ofRecords Category.id categories, Index.ofRecords Account.id accounts,
    Index.ofRecords Tag.id tags⟩

/-- The tags of each transaction. -/
abbrev TagMap := Index (List Tag)

/-- The tags of a transaction. -/
def TagMap.tagsOf (m : TagMap) (transaction : Int) : List Tag := (m.get? transaction).getD []

/-- A transaction with everything a filter can ask about. -/
structure View where
  transaction : Transaction
  tags : List Tag
  category : Option String
  account : Option String

/-- Resolves a transaction and its tags. -/
def Catalog.view (c : Catalog) (t : Transaction) (tags : List Tag) : View where
  transaction := t
  tags := tags
  category := t.category.bind fun i => (c.categories.get? i).map Category.name
  account := t.account.bind fun i => (c.accounts.get? i).map Account.name

/-! ### Account scopes -/

/-- The accounts that are looked at, by ascending id; no account at all means all of them. -/
structure AccountScope where
  accounts : List Int
  deriving DecidableEq

namespace AccountScope

/-- All accounts. -/
def all : AccountScope := ⟨[]⟩

/-- The listed accounts. -/
def only (ids : List Int) : AccountScope := ⟨ascending ids⟩

/-- Whether all accounts are looked at. -/
def isUnrestricted (s : AccountScope) : Bool := s.accounts.isEmpty

/-- Whether a transaction is looked at. -/
def holds (s : AccountScope) (t : Transaction) : Bool :=
  s.isUnrestricted || match t.account with
    | some i => s.accounts.contains i
    | none => false

/-- A scope of listed accounts has exactly those. -/
theorem mem_only_iff {i : Int} {ids : List Int} : i ∈ (only ids).accounts ↔ i ∈ ids := by
  simp [only, mem_ascending_iff]

end AccountScope

end Coffer
