/-
**Accounts, categories and tags by their names.**

What is asked for by its name is found, or made.  Afterwards it is there, and to ask for it again
makes nothing.  A transaction whose account and category are there is entered if its amount is a
number, and a tag that is there is attached.

Main definitions:

* `Coffer.Store.withNames` — the store with an account and a category, where they are named.

Main results:

* `Coffer.Store.hasAccount_ensureAccount`, `Coffer.Store.hasCategory_ensureCategory`,
  `Coffer.Store.hasTag_ensureTag` — what was asked for is there;
* `Coffer.Store.addTransaction_cases` — **a transaction is refused only for its amount** if what it
  names is there;
* `Coffer.Store.withNames_eq_self_iff` — no name is made exactly if all are known.
-/

import Coffer.Proofs.Store.References

set_option autoImplicit false

namespace Coffer.Store

variable {s : Store}

/-- The id of a name, if there is a name, and the store in which it is there. -/
def withName (ensure : String → Store → Int × Store) (name : Option String) (s : Store) :
    Option Int × Store :=
  match name with
  | some name => (some (ensure name s).1, (ensure name s).2)
  | none => (none, s)

/-- The account of a name, if there is a name, and the store with it. -/
def withAccount (s : Store) (name : Option String) : Option Int × Store :=
  withName ensureAccount name s

/-- The category of a name, if there is a name, and the store with it. -/
def withCategory (s : Store) (name : Option String) : Option Int × Store :=
  withName (fun name => ensureCategory name 0 none) name s

/-- The store with an account and a category, where they are named. -/
def withNames (s : Store) (account category : Option String) : Store :=
  ((s.withAccount account).2.withCategory category).2

theorem ensureAccount_of_found {name : String} {i : Int}
    (h : (s.accountNamed? name).map Account.id = some i) : s.ensureAccount name = (i, s) := by
  obtain ⟨a, ha, rfl⟩ := Option.map_eq_some_iff.1 h
  unfold ensureAccount
  rw [ha]

theorem ensureCategory_of_found {name : String} {order : Int} {color : Option String} {i : Int}
    (h : (s.categoryNamed? name).map Category.id = some i) :
    s.ensureCategory name order color = (i, s) := by
  obtain ⟨c, hc, rfl⟩ := Option.map_eq_some_iff.1 h
  unfold ensureCategory
  rw [hc]

theorem ensureTag_of_found {name : String} {color : Option String} {i : Int}
    (h : (s.tagNamed? name).map Tag.id = some i) : s.ensureTag name color = (i, s) := by
  obtain ⟨g, hg, rfl⟩ := Option.map_eq_some_iff.1 h
  unfold ensureTag
  rw [hg]

theorem any_id_append {α : Type} (id : α → Int) (xs : List α) (x : α) :
    (xs ++ [x]).any (fun y => id y == id x) = true := by
  simp

theorem any_id_of_find? {α : Type} {p : α → Bool} (id : α → Int) {xs : List α} {x : α}
    (h : xs.find? p = some x) : xs.any (fun y => id y == id x) = true :=
  List.any_eq_true.2 ⟨x, List.mem_of_find?_eq_some h, by simp⟩

theorem hasAccount_ensureAccount (name : String) (s : Store) :
    (s.ensureAccount name).2.hasAccount (s.ensureAccount name).1 = true := by
  unfold ensureAccount
  split
  · next a ha => exact any_id_of_find? Account.id ha
  · exact any_id_append Account.id _ _

theorem hasCategory_ensureCategory (name : String) (order : Int) (color : Option String)
    (s : Store) : (s.ensureCategory name order color).2.hasCategory
      (s.ensureCategory name order color).1 = true := by
  unfold ensureCategory
  split
  · next c hc => exact any_id_of_find? Category.id hc
  · exact any_id_append Category.id _ _

theorem hasTag_ensureTag (name : String) (color : Option String) (s : Store) :
    (s.ensureTag name color).2.hasTag (s.ensureTag name color).1 = true := by
  unfold ensureTag
  split
  · next g hg => exact any_id_of_find? Tag.id hg
  · exact any_id_append Tag.id _ _

/-- A tag that is there can be attached to a transaction that is there. -/
theorem exists_attachTag_eq_ok {i g : Int} (source : TagSource) (hi : s.hasTransaction i = true)
    (hg : s.hasTag g = true) : ∃ t, s.attachTag i g source = .ok t := by
  unfold attachTag
  split
  · exact ⟨s, rfl⟩
  · rw [hi, hg]
    exact ⟨_, rfl⟩

theorem demandOpt_eq_ok {isThere : Int → Bool} {i : Option Int}
    (h : ∀ j, i = some j → isThere j = true) : demandOpt isThere i = .ok () := by
  cases i with
  | none => rfl
  | some j =>
      show demand (isThere j) = _
      rw [h j rfl]
      rfl

theorem keepAmount_of_isNaN {column : String} {x : Float} (h : x.isNaN = true) :
    keepAmount column x = .error (.missingValue column) := if_pos h

theorem exists_keepAmount_eq_ok {column : String} {x : Float} (h : x.isNaN = false) :
    ∃ y, keepAmount column x = .ok y := by
  unfold keepAmount
  rw [h]
  by_cases hzero : (x == 0) = true
  · exact ⟨0, if_pos hzero⟩
  · exact ⟨x, if_neg hzero⟩

/-- **A transaction is refused only for its amount** if its account and its category are there. -/
theorem addTransaction_cases {p : Posting}
    (haccount : ∀ i, p.account = some i → s.hasAccount i = true)
    (hcategory : ∀ i, p.category = some i → s.hasCategory i = true) :
    (p.amount.isNaN = true ∧ s.addTransaction p = .error (.missingValue "transactions.amount")) ∨
      (p.amount.isNaN = false ∧
        ∃ i t, s.addTransaction p = .ok (i, t) ∧ t.hasTransaction i = true) := by
  unfold addTransaction
  rw [demandOpt_eq_ok haccount, demandOpt_eq_ok hcategory]
  cases hamount : p.amount.isNaN with
  | true =>
      rw [keepAmount_of_isNaN hamount]
      exact .inl ⟨rfl, rfl⟩
  | false =>
      obtain ⟨y, hy⟩ : ∃ y, keepAmount "transactions.amount" p.amount = .ok y :=
        exists_keepAmount_eq_ok hamount
      rw [hy]
      exact .inr ⟨rfl, _, _, rfl, any_id_append TransactionRow.id _ _⟩

/-! ### Names that are known -/

/-- Whether the account and the category are known, where they are named. -/
def knowsNames (s : Store) (account category : Option String) : Bool :=
  account.all (fun name => (s.accountNamed? name).isSome) &&
    category.all fun name => (s.categoryNamed? name).isSome

section

variable {α : Type} {find? : String → Option α} {ensure : String → Store → Int × Store}
  {name : Option String}

theorem withName_of_known (hfound : ∀ name, (find? name).isSome = true → (ensure name s).2 = s)
    (h : name.all (fun name => (find? name).isSome) = true) : (withName ensure name s).2 = s := by
  cases name with
  | none => rfl
  | some name => exact hfound name h

/-- A name that is not known makes a new row. -/
theorem known_of_withName {β : Type} {rows : Store → List β}
    (hnew : ∀ name, find? name = none → rows (ensure name s).2 ≠ rows s)
    (h : rows (withName ensure name s).2 = rows s) :
    name.all (fun name => (find? name).isSome) = true := by
  cases name with
  | none => rfl
  | some name =>
      show (find? name).isSome = true
      rw [Option.isSome_iff_ne_none]
      exact fun hnone => hnew name hnone h

/-- What holds of the id of every name holds of the one that is given. -/
theorem of_withName_eq_some {P : Store → Int → Prop} {i : Int}
    (hP : ∀ name, P (ensure name s).2 (ensure name s).1) (h : (withName ensure name s).1 = some i) :
    P (withName ensure name s).2 i := by
  cases name with
  | none => cases h
  | some name =>
      cases h
      exact hP name

end

theorem withAccount_of_known {name : Option String}
    (h : name.all (fun name => (s.accountNamed? name).isSome) = true) :
    (s.withAccount name).2 = s := by
  refine withName_of_known (fun name hname => ?_) h
  obtain ⟨a, ha⟩ := Option.isSome_iff_exists.1 hname
  rw [ensureAccount_of_found (congrArg (Option.map Account.id) ha)]

theorem withCategory_of_known {name : Option String}
    (h : name.all (fun name => (s.categoryNamed? name).isSome) = true) :
    (s.withCategory name).2 = s := by
  refine withName_of_known (fun name hname => ?_) h
  obtain ⟨c, hc⟩ := Option.isSome_iff_exists.1 hname
  rw [ensureCategory_of_found (congrArg (Option.map Category.id) hc)]

theorem known_of_accounts_withAccount {name : Option String}
    (h : (s.withAccount name).2.accounts = s.accounts) :
    name.all (fun name => (s.accountNamed? name).isSome) = true := by
  refine known_of_withName (fun name hnone hsame => ?_) h
  simp [ensureAccount, hnone] at hsame

theorem known_of_categories_withCategory {name : Option String}
    (h : (s.withCategory name).2.categories = s.categories) :
    name.all (fun name => (s.categoryNamed? name).isSome) = true := by
  refine known_of_withName (fun name hnone hsame => ?_) h
  simp [ensureCategory, hnone] at hsame

theorem accounts_withCategory (s : Store) (name : Option String) :
    (s.withCategory name).2.accounts = s.accounts := by
  cases name with
  | none => rfl
  | some name =>
      show (s.ensureCategory name 0 none).2.accounts = _
      unfold ensureCategory
      split <;> rfl

/-- The account is still there when the category has been made. -/
theorem hasAccount_withNames {account category : Option String} {i : Int}
    (h : (s.withAccount account).1 = some i) :
    (s.withNames account category).hasAccount i = true := by
  have haccount : (s.withAccount account).2.hasAccount i = true :=
    of_withName_eq_some (P := fun s i => s.hasAccount i = true)
      (fun name => hasAccount_ensureAccount name s) h
  unfold hasAccount withNames
  rw [accounts_withCategory]
  exact haccount

theorem hasCategory_withNames {account category : Option String} {i : Int}
    (h : ((s.withAccount account).2.withCategory category).1 = some i) :
    (s.withNames account category).hasCategory i = true :=
  of_withName_eq_some (P := fun s i => s.hasCategory i = true)
    (fun name => hasCategory_ensureCategory name 0 none (s.withAccount account).2) h

/-- No name is made exactly if all are known. -/
theorem withNames_eq_self_iff {account category : Option String} :
    s.withNames account category = s ↔ s.knowsNames account category = true := by
  unfold knowsNames withNames
  rw [Bool.and_eq_true]
  constructor
  · intro h
    have haccount : account.all (fun name => (s.accountNamed? name).isSome) = true := by
      refine known_of_accounts_withAccount ?_
      rw [← accounts_withCategory _ category]
      exact congrArg Store.accounts h
    rw [withAccount_of_known haccount] at h
    exact ⟨haccount, known_of_categories_withCategory (congrArg Store.categories h)⟩
  · rintro ⟨haccount, hcategory⟩
    rw [withAccount_of_known haccount, withCategory_of_known hcategory]

end Coffer.Store
