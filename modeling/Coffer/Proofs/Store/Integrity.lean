/-
**The tables are in order after every row of operations.**

Ids are distinct, names are distinct in the way in which their table compares them, what a record
refers to is there, there is one record under each key, and no amount is anything but a number.
Each of these is kept by every change for a reason of its own: a fresh id is greater than those that
are there, a name is looked up before it is entered, a reference is checked, and accounts,
categories, tags, transactions, budgets and targets are never deleted.

Main definitions:

* `Coffer.Store.DistinctIds`, `Coffer.Store.DistinctNames`, `Coffer.Store.RefersToRecords`,
  `Coffer.Store.DistinctKeys`, `Coffer.Store.OnlyNumbers` — the parts of the invariant;
* `Coffer.Store.Integrity` — **the invariant.**

Main results:

* `Coffer.Text.nameKey_eq_of_foldAscii` — names that differ only in the case of ASCII letters are
  one;
* `Coffer.Store.find?_eq_some_of_unique` — what alone has a property is found by it;
* `Coffer.Store.integrity_run` — **the invariant holds after every row of operations, and a name
  that is there is found and changes nothing.**
-/

import Coffer.Proofs.Store.Bindings
import Coffer.Proofs.Store.NameMatching
import Coffer.Proofs.Store.Names
import Coffer.Proofs.Store.RuleTables

set_option autoImplicit false

namespace Coffer

/-! ### Names up to the case of ASCII letters -/

namespace Text

theorem utf8Size_toLower (c : Char) : c.toLower.utf8Size = c.utf8Size := by
  unfold Char.toLower
  split
  · next h =>
      -- an upper case letter and its lower case are both ASCII
      have hhigh : c.val.toNat ≤ 90 := h.2
      have hoffset : ('a'.val - 'A'.val).toNat = 32 := rfl
      have hsize : c.utf8Size = 1 :=
        Char.utf8Size_eq_one_iff.2 (UInt32.le_iff_toNat_le.2 (Nat.le_trans hhigh (by decide)))
      have hlower : (c.val + ('a'.val - 'A'.val)).toNat ≤ 127 := by
        rw [UInt32.toNat_add, hoffset]
        omega
      rw [hsize]
      exact Char.utf8Size_eq_one_iff.2 (UInt32.le_iff_toNat_le.2 hlower)
  · rfl

theorem utf8ByteSize_foldAscii (s : List Char) :
    (String.ofList (foldAscii s)).utf8ByteSize = (String.ofList s).utf8ByteSize := by
  induction s with
  | nil => rfl
  | cons c rest ih =>
      have hcons : foldAscii (c :: rest) = c.toLower :: foldAscii rest := rfl
      rw [hcons, String.ofList_cons, String.ofList_cons, String.utf8ByteSize_append,
        String.utf8ByteSize_append, ih, String.utf8ByteSize_singleton,
        String.utf8ByteSize_singleton, utf8Size_toLower]

/-- Names that differ only in the case of ASCII letters are one name. -/
theorem nameKey_eq_of_foldAscii {a b : String} (h : foldAscii a.toList = foldAscii b.toList) :
    nameKey a = nameKey b := by
  have hsize : a.utf8ByteSize = b.utf8ByteSize := by
    rw [← String.ofList_toList (s := a), ← String.ofList_toList (s := b), ← utf8ByteSize_foldAscii,
      h, utf8ByteSize_foldAscii]
  rw [nameKey, nameKey, foldAscii_takeWhile, foldAscii_takeWhile, h, hsize]

end Text

namespace Store

variable {s s' : Store}

/-- Names that are distinct to their table differ in more than the case of ASCII letters. -/
theorem nodup_foldAscii {α : Type} {name : α → String} {rows : List α}
    (h : (rows.map fun x => Text.nameKey (name x)).Nodup) :
    (rows.map fun x => Text.foldAscii (name x).toList).Nodup := by
  refine List.pairwise_map.2 ((List.pairwise_map.1 h).imp ?_)
  intro x y hne heq
  exact hne (Text.nameKey_eq_of_foldAscii heq)

/-! ### Keys -/

/-- What holds of the records of a table and of one that is entered. -/
theorem forall_mem_enter {α : Type} {P : α → Prop} {xs : List α} {x : α} (h : ∀ y ∈ xs, P y)
    (hx : P x) : ∀ y ∈ xs ++ [x], P y :=
  List.forall_mem_append.2 ⟨h, List.forall_mem_singleton.2 hx⟩

theorem Change.nodup_accountIds (h : Change s s') (hs : (s.accounts.map Account.id).Nodup) :
    (s'.accounts.map Account.id).Nodup := by
  cases h with
  | account name hnew =>
      rw [List.map_append]
      exact nodup_append_freshId hs
  | _ => exact hs

theorem Change.nodup_accountNames (h : Change s s') (hs : (s.accounts.map Account.name).Nodup) :
    (s'.accounts.map Account.name).Nodup := by
  cases h with
  | account name hnew =>
      refine nodup_append_of_new hs fun a ha => ?_
      simpa using List.find?_eq_none.1 hnew a ha
  | _ => exact hs

theorem Change.nodup_filterNames (h : Change s s') (hs : (s.filters.map SavedFilter.name).Nodup) :
    (s'.filters.map SavedFilter.name).Nodup := by
  cases h with
  | filter name expression hnew => exact nodup_append_of_new hs hnew
  | deleteFilter i => exact hs.sublist (List.filter_sublist.map _)
  | _ => exact hs

theorem Change.nodup_links (h : Change s s')
    (hs : (s.links.map fun l => (l.transaction, l.tag)).Nodup) :
    (s'.links.map fun l => (l.transaction, l.tag)).Nodup := by
  cases h with
  | link i g source hnew htransaction htag =>
      refine nodup_append_of_new hs fun l hl heq => ?_
      obtain ⟨hi, hg⟩ := Prod.mk.inj heq
      have hlinked : s.isLinked i g = true := List.any_eq_true.2 ⟨l, hl, by simp [hi, hg]⟩
      rw [hnew] at hlinked
      cases hlinked
  | _ => exact hs

theorem Change.nodup_budgetIds (h : Change s s') (hs : (s.budgets.map Budget.id).Nodup) :
    (s'.budgets.map Budget.id).Nodup := by
  cases h with
  | budget category hamount hnew hcategory =>
      rw [List.map_append]
      exact nodup_append_freshId hs
  | budgetAmount category hamount =>
      exact nodup_rewrite hs fun o => by split <;> rfl
  | _ => exact hs

theorem Change.nodup_budgetCategories (h : Change s s')
    (hs : (s.budgets.map Budget.category).Nodup) :
    (s'.budgets.map Budget.category).Nodup := by
  cases h with
  | budget category hamount hnew hcategory =>
      refine nodup_append_of_new hs fun b hb => ?_
      simpa using List.find?_eq_none.1 hnew b hb
  | budgetAmount category hamount =>
      exact nodup_rewrite hs fun o => by split <;> rfl
  | _ => exact hs

theorem Change.nodup_offsetIds (h : Change s s') (hs : (s.offsets.map CreditOffset.id).Nodup) :
    (s'.offsets.map CreditOffset.id).Nodup := by
  cases h with
  | offset credit debit hamount hcredit hdebit =>
      rw [List.map_append]
      exact nodup_append_freshId hs
  | _ => exact hs

/-! ### References -/

theorem hasBudget_iff {i : Int} : s.hasBudget i = true ↔ i ∈ s.budgets.map Budget.id := by
  simp [hasBudget]

/-- Accounts are never deleted. -/
theorem Change.keeps_account (h : Change s s') {i : Int} (hi : s.hasAccount i = true) :
    s'.hasAccount i = true := by
  cases h with
  | account name hnew => exact any_append_of_any hi _
  | _ => exact hi

/-- Budgets are never deleted. -/
theorem Change.keeps_budget (h : Change s s') {i : Int} (hi : s.hasBudget i = true) :
    s'.hasBudget i = true := by
  cases h with
  | budget category hamount hnew hcategory => exact any_append_of_any hi _
  | budgetAmount category hamount =>
      rw [hasBudget_iff] at hi ⊢
      rwa [map_rewrite fun b => by split <;> rfl]
  | _ => exact hi

/-- Targets are never deleted. -/
theorem Change.keeps_target (h : Change s s') {i : Int} (hi : s.hasTarget i = true) :
    s'.hasTarget i = true := by
  cases h with
  | target name filter period hamount => exact any_append_of_any hi _
  | _ => exact hi

/-- The account and the category of a transaction are there. -/
structure HasNamesOfRow (s : Store) (r : TransactionRow) : Prop where
  account : ∀ i, r.account = some i → s.hasAccount i = true
  category : ∀ i, r.category = some i → s.hasCategory i = true

theorem Change.transactions_there (h : Change s s') (hs : ∀ r ∈ s.transactions, s.HasNamesOfRow r) :
    ∀ r ∈ s'.transactions, s'.HasNamesOfRow r := by
  have hold : ∀ r ∈ s.transactions, s'.HasNamesOfRow r := fun r hr =>
    ⟨fun i hi => h.keeps_account ((hs r hr).account i hi),
      fun i hi => h.extends.categories i ((hs r hr).category i hi)⟩
  cases h with
  | transaction p hamount haccount hcategory =>
      exact forall_mem_enter hold ⟨haccount, hcategory⟩
  | categorize i c hc =>
      refine List.forall_mem_map.2 fun r hr => ?_
      obtain ⟨haccount, hcategory⟩ := hold r hr
      split
      · exact ⟨haccount, hc⟩
      · exact ⟨haccount, hcategory⟩
  | _ => exact hold

theorem Change.budgets_there (h : Change s s')
    (hs : ∀ b ∈ s.budgets, s.hasCategory b.category = true) :
    ∀ b ∈ s'.budgets, s'.hasCategory b.category = true := by
  have hold : ∀ b ∈ s.budgets, s'.hasCategory b.category = true :=
    fun b hb => h.extends.categories _ (hs b hb)
  cases h with
  | budget category hamount hnew hcategory =>
      exact forall_mem_enter hold hcategory
  | budgetAmount category hamount =>
      exact List.forall_mem_map.2 fun b hb => by split <;> exact hold b hb
  | _ => exact hold

theorem Change.offsets_there (h : Change s s')
    (hs : ∀ o ∈ s.offsets, s.hasTransaction o.credit = true ∧ s.hasTransaction o.debit = true) :
    ∀ o ∈ s'.offsets, s'.hasTransaction o.credit = true ∧ s'.hasTransaction o.debit = true := by
  have hold : ∀ o ∈ s.offsets,
      s'.hasTransaction o.credit = true ∧ s'.hasTransaction o.debit = true :=
    fun o ho => ⟨h.extends.transactions _ (hs o ho).1, h.extends.transactions _ (hs o ho).2⟩
  cases h with
  | offset credit debit hamount hcredit hdebit =>
      exact forall_mem_enter hold ⟨hcredit, hdebit⟩
  | _ => exact hold

/-! ### Amounts -/

/-- All amounts that are stored are numbers. -/
structure OnlyNumbers (s : Store) : Prop where
  transactions : ∀ t ∈ s.transactions, t.amount.isNaN = false
  budgets : ∀ b ∈ s.budgets, b.amount.isNaN = false
  budgetOverrides : ∀ o ∈ s.budgetOverrides, o.amount.isNaN = false
  targets : ∀ g ∈ s.targets, g.amount.isNaN = false
  targetOverrides : ∀ o ∈ s.targetOverrides, o.amount.isNaN = false
  offsets : ∀ o ∈ s.offsets, o.amount.isNaN = false

theorem onlyNumbers_empty : empty.OnlyNumbers := ⟨nofun, nofun, nofun, nofun, nofun, nofun⟩

theorem OnlyNumbers.change (hs : s.OnlyNumbers) (h : Change s s') : s'.OnlyNumbers := by
  cases h with
  | transaction p hamount haccount hcategory =>
      exact { hs with
        transactions := forall_mem_enter hs.transactions (isNaN_of_keepAmount hamount) }
  | categorize i c hc =>
      refine { hs with transactions := List.forall_mem_map.2 fun t ht => ?_ }
      split <;> exact hs.transactions t ht
  | budget category hamount hnew hcategory =>
      exact { hs with budgets := forall_mem_enter hs.budgets (isNaN_of_keepAmount hamount) }
  | budgetAmount category hamount =>
      refine { hs with budgets := List.forall_mem_map.2 fun b hb => ?_ }
      split
      · exact isNaN_of_keepAmount hamount
      · exact hs.budgets b hb
  | budgetOverride hsets =>
      exact { hs with budgetOverrides := hsets.forall_numbers hs.budgetOverrides }
  | target name filter period hamount =>
      exact { hs with targets := forall_mem_enter hs.targets (isNaN_of_keepAmount hamount) }
  | targetOverride hsets =>
      exact { hs with targetOverrides := hsets.forall_numbers hs.targetOverrides }
  | offset credit debit hamount hcredit hdebit =>
      exact { hs with offsets := forall_mem_enter hs.offsets (isNaN_of_keepAmount hamount) }
  | _ => exact { hs with }

/-! ### The invariant -/

/-- No two records of a table have the same id. -/
structure DistinctIds (s : Store) : Prop where
  accounts : (s.accounts.map Account.id).Nodup
  categories : (s.categories.map Category.id).Nodup
  tags : (s.tags.map Tag.id).Nodup
  transactions : (s.transactions.map TransactionRow.id).Nodup
  filters : (s.filters.map SavedFilter.id).Nodup
  rules : (s.rules.map Rule.id).Nodup
  budgets : (s.budgets.map Budget.id).Nodup
  targets : (s.targets.map TargetRow.id).Nodup
  offsets : (s.offsets.map CreditOffset.id).Nodup

/-- No two accounts and no two saved filters have the same name, and no two categories and no two
tags have names that differ only in the case of ASCII letters. -/
structure DistinctNames (s : Store) : Prop where
  accounts : (s.accounts.map Account.name).Nodup
  filters : (s.filters.map SavedFilter.name).Nodup
  categories : (s.categories.map fun c => Text.foldAscii c.name.toList).Nodup
  tags : (s.tags.map fun g => Text.foldAscii g.name.toList).Nodup

/-- What records refer to is there. -/
structure RefersToRecords (s : Store) : Prop where
  transactions : ∀ r ∈ s.transactions, s.HasNamesOfRow r
  links : ∀ l ∈ s.links, s.hasTransaction l.transaction = true ∧ s.hasTag l.tag = true
  rules : ∀ r ∈ s.rules, s.HasNamesOf r
  budgets : ∀ b ∈ s.budgets, s.hasCategory b.category = true
  budgetOverrides : ∀ o ∈ s.budgetOverrides, s.hasBudget o.budget = true
  targetOverrides : ∀ o ∈ s.targetOverrides, s.hasTarget o.target = true
  offsets : ∀ o ∈ s.offsets, s.hasTransaction o.credit = true ∧ s.hasTransaction o.debit = true

/-- There is one tag link for a transaction and a tag, one budget for a category, one override for a
budget and a month, and one for a target and a period. -/
structure DistinctKeys (s : Store) : Prop where
  links : (s.links.map fun l => (l.transaction, l.tag)).Nodup
  budgets : (s.budgets.map Budget.category).Nodup
  budgetOverrides : (s.budgetOverrides.map fun o => (o.budget, o.month)).Nodup
  targetOverrides : (s.targetOverrides.map fun o => (o.target, o.period)).Nodup

/-- **The tables are in order.** -/
structure Integrity (s : Store) : Prop where
  ids : s.DistinctIds
  names : s.DistinctNames
  references : s.RefersToRecords
  keys : s.DistinctKeys
  amounts : s.OnlyNumbers

/-- What holds of the empty store and is kept by every change holds after every row of
operations. -/
theorem holds_run {P : Store → Prop} (hempty : P empty)
    (hchange : ∀ {s s'}, Change s s' → P s → P s') (ops : List Operation) : P (run empty ops) :=
  (changes_run empty ops).keeps (fun hs h => hchange h hs) hempty

theorem distinctIds_run (ops : List Operation) : (run empty ops).DistinctIds where
  accounts := holds_run .nil Change.nodup_accountIds ops
  categories := (named_run ops).categoryIds
  tags := (named_run ops).tagIds
  transactions := (sound_run ops).transactions
  filters := (distinctBindings_run ops).filters
  rules := (distinctBindings_run ops).rules
  budgets := holds_run .nil Change.nodup_budgetIds ops
  targets := (distinctBindings_run ops).targets
  offsets := holds_run .nil Change.nodup_offsetIds ops

theorem distinctNames_run (ops : List Operation) : (run empty ops).DistinctNames where
  accounts := holds_run .nil Change.nodup_accountNames ops
  filters := holds_run .nil Change.nodup_filterNames ops
  categories := nodup_foldAscii (named_run ops).categoryNames
  tags := nodup_foldAscii (named_run ops).tagNames

theorem refersToRecords_run (ops : List Operation) : (run empty ops).RefersToRecords where
  transactions := holds_run nofun Change.transactions_there ops
  links := (sound_run ops).links
  rules := (sound_run ops).rules
  budgets := holds_run nofun Change.budgets_there ops
  budgetOverrides := holds_run nofun
    (fun h => h.step_budgets.forall_owners fun _ => h.keeps_budget) ops
  targetOverrides := holds_run nofun
    (fun h => h.step_targets.forall_owners fun _ => h.keeps_target) ops
  offsets := holds_run nofun Change.offsets_there ops

theorem distinctKeys_run (ops : List Operation) : (run empty ops).DistinctKeys where
  links := holds_run .nil Change.nodup_links ops
  budgets := holds_run .nil Change.nodup_budgetCategories ops
  budgetOverrides := holds_run .nil (fun h => h.step_budgets.nodup_keys) ops
  targetOverrides := holds_run .nil (fun h => h.step_targets.nodup_keys) ops

/-! ### Names that are there -/

/-- What alone has a property is found by it. -/
theorem find?_eq_some_of_unique {α : Type} {p : α → Bool} {xs : List α} {x : α} (hx : x ∈ xs)
    (hp : p x = true) (hunique : ∀ y ∈ xs, p y = true → y = x) : xs.find? p = some x := by
  cases hfind : xs.find? p with
  | none => exact absurd hp (List.find?_eq_none.1 hfind x hx)
  | some y => rw [hunique y (List.mem_of_find?_eq_some hfind) (List.find?_some hfind)]

/-- A name that is there is found: the answer is the id of its record, and nothing changes. -/
theorem perform_ensureAccount (hs : (s.accounts.map Account.name).Nodup) {a : Account}
    (ha : a ∈ s.accounts) : s.perform (.ensureAccount a.name) = .ok (.id a.id, s) := by
  have hfind : s.accountNamed? a.name = some a :=
    find?_eq_some_of_unique ha (by simp) fun b hb hname =>
      List.inj_on_of_nodup_map hs hb ha (eq_of_beq hname)
  show Except.ok (withId (s.ensureAccount a.name)) = _
  rw [ensureAccount_of_found (congrArg (Option.map Account.id) hfind)]
  rfl

/-- A record is found by any name that is the same as its own. -/
theorem find?_sameName {α : Type} {name : α → String} {rows : List α} {x : α} {text : String}
    (hs : (rows.map fun y => Text.nameKey (name y)).Nodup) (hx : x ∈ rows)
    (hsame : Text.sameName (name x) text = true) :
    rows.find? (fun y => Text.sameName (name y) text) = some x := by
  refine find?_eq_some_of_unique hx hsame fun y hy hname => ?_
  refine List.inj_on_of_nodup_map hs hy hx ?_
  rw [Text.sameName_iff.1 hname, Text.sameName_iff.1 hsame]

theorem perform_ensureCategory (hs : s.Named) {c : Category} (hc : c ∈ s.categories) {name : String}
    (hsame : Text.sameName c.name name = true) (order : Int) (color : Option String) :
    s.perform (.ensureCategory name order color) = .ok (.id c.id, s) := by
  have hfind : s.categoryNamed? name = some c := find?_sameName hs.categoryNames hc hsame
  show Except.ok (withId (s.ensureCategory name order color)) = _
  rw [ensureCategory_of_found (congrArg (Option.map Category.id) hfind)]
  rfl

theorem perform_ensureTag (hs : s.Named) {g : Tag} (hg : g ∈ s.tags) {name : String}
    (hsame : Text.sameName g.name name = true) (color : Option String) :
    s.perform (.ensureTag name color) = .ok (.id g.id, s) := by
  have hfind : s.tagNamed? name = some g := find?_sameName hs.tagNames hg hsame
  show Except.ok (withId (s.ensureTag name color)) = _
  rw [ensureTag_of_found (congrArg (Option.map Tag.id) hfind)]
  rfl

/-- **The tables are in order after every row of operations,** refused ones included.  This holds of
rules and their tags also where they are kept in two tables: no pair of a rule and a tag is there
twice, and both its ends are there.  To ask for a name that is there, as its table compares names,
is to get the id of its record and to change nothing. -/
theorem integrity_run (ops : List Operation) :
    (run empty ops).Integrity ∧
    (RuleTables.empty.run empty ops).Holds (run empty ops) ∧
    (∀ a ∈ (run empty ops).accounts,
      (run empty ops).perform (.ensureAccount a.name) = .ok (.id a.id, run empty ops)) ∧
    (∀ c ∈ (run empty ops).categories, ∀ name order color, Text.sameName c.name name = true →
      (run empty ops).perform (.ensureCategory name order color) = .ok (.id c.id, run empty ops)) ∧
    (∀ g ∈ (run empty ops).tags, ∀ name color, Text.sameName g.name name = true →
      (run empty ops).perform (.ensureTag name color) = .ok (.id g.id, run empty ops)) := by
  have hintegrity : (run empty ops).Integrity :=
    { ids := distinctIds_run ops
      names := distinctNames_run ops
      references := refersToRecords_run ops
      keys := distinctKeys_run ops
      amounts := holds_run onlyNumbers_empty (fun h hs => hs.change h) ops }
  refine ⟨hintegrity, RuleTables.holds_run ops, ?_, ?_, ?_⟩
  · intro a ha
    exact perform_ensureAccount hintegrity.names.accounts ha
  · intro c hc name order color hsame
    exact perform_ensureCategory (named_run ops) hc hsame order color
  · intro g hg name color hsame
    exact perform_ensureTag (named_run ops) hg hsame color

/-- A rule with two tags is deleted, and the next one gets its id. The budget of a category that is
not there and an amount that is not a number are refused. -/
def issuedAgain : List Operation :=
  [.ensureAccount "Card", .ensureCategory "Food" 0 none, .ensureTag "daily" none,
    .ensureTag "rare" none, .addRule ⟨"first", 1, some 1, [2, 1, 2], 0⟩, .deleteRule 1,
    .addRule ⟨"second", 1, none, [1], 0⟩, .setBudget 5 100, .setBudget 1 (0 / 0), .setBudget 1 100]

theorem integrity_run_issuedAgain :
    (run empty issuedAgain).rules = [⟨⟨"second", 1, none, [1], 0⟩, 1, true⟩] ∧
    (RuleTables.empty.run empty issuedAgain).tags = [⟨1, 1⟩] ∧
    (RuleTables.empty.run empty issuedAgain).rules = (run empty issuedAgain).rules ∧
    (run empty issuedAgain).budgets.length = 1 ∧
    (run empty issuedAgain).Integrity ∧
    (run empty issuedAgain).perform (.ensureAccount "Card") = .ok (.id 1, run empty issuedAgain) ∧
    (run empty issuedAgain).perform (.ensureCategory "FOOD" 7 none) =
      .ok (.id 1, run empty issuedAgain) ∧
    (run empty issuedAgain).perform (.ensureTag "Rare" none) =
      .ok (.id 2, run empty issuedAgain) := by
  obtain ⟨hintegrity, hholds, haccount, hcategory, htag⟩ := integrity_run issuedAgain
  refine ⟨by decide, by decide, hholds.rules, by decide, hintegrity, ?_, ?_, ?_⟩
  · exact haccount ⟨1, "Card"⟩ (by decide)
  · exact hcategory ⟨1, "Food", 0, none⟩ (by decide) "FOOD" 7 none (by decide)
  · exact htag ⟨2, "rare", none⟩ (by decide) "Rare" none (by decide)

end Store

end Coffer
