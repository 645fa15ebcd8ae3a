/-
**Records that are referred to are there.**

Transactions, categories and tags are never deleted, so that a reference to one of them that has
been checked once stays good.  In every store that operations have made from the empty one, tags of
transactions and the categories and tags of rules are there, no two transactions have the same id,
and what is stored as a text, the dates and the period lengths, is the text of one.

Main definitions:

* `Coffer.Store.Extends` — what one store has, the other one has too;
* `Coffer.Store.Sound` — the invariant.

Main results:

* `Coffer.Store.extends_run` — **no operation deletes what others may refer to;**
* `Coffer.Store.sound_run` — **the invariant holds after every row of operations.**
-/

import Coffer.Proofs.Store.Changes
import Coffer.Proofs.Store.Keys

set_option autoImplicit false

namespace Coffer.Store

variable {s s' s'' : Store}

/-! ### What stays -/

/-- What one store has of transactions, categories and tags, the other one has too. -/
structure Extends (s s' : Store) : Prop where
  transactions : ∀ i, s.hasTransaction i = true → s'.hasTransaction i = true
  categories : ∀ i, s.hasCategory i = true → s'.hasCategory i = true
  tags : ∀ i, s.hasTag i = true → s'.hasTag i = true

theorem Extends.refl (s : Store) : Extends s s := ⟨fun _ h => h, fun _ h => h, fun _ h => h⟩

theorem Extends.trans (h : Extends s s') (h' : Extends s' s'') : Extends s s'' where
  transactions := fun i hi => h'.transactions i (h.transactions i hi)
  categories := fun i hi => h'.categories i (h.categories i hi)
  tags := fun i hi => h'.tags i (h.tags i hi)

theorem any_append_of_any {α : Type} {p : α → Bool} {xs : List α} (h : xs.any p = true)
    (ys : List α) : (xs ++ ys).any p = true := by
  rw [List.any_append, h, Bool.true_or]

theorem ids_categorize (rows : List TransactionRow) (i : Int) (c : Option Int) :
    (rows.map fun t => if t.id = i then { t with category := c } else t).map TransactionRow.id =
      rows.map TransactionRow.id :=
  map_rewrite (fun t => by split <;> rfl) rows

theorem hasTransaction_iff {i : Int} :
    s.hasTransaction i = true ↔ i ∈ s.transactions.map TransactionRow.id := by
  simp [hasTransaction]

theorem Change.extends (h : Change s s') : Extends s s' := by
  cases h with
  | category name sortOrder color hnew =>
      exact ⟨fun _ h => h, fun _ h => any_append_of_any h _, fun _ h => h⟩
  | tag name color hnew => exact ⟨fun _ h => h, fun _ h => h, fun _ h => any_append_of_any h _⟩
  | transaction p hamount haccount hcategory =>
      exact ⟨fun _ h => any_append_of_any h _, fun _ h => h, fun _ h => h⟩
  | categorize i c hc =>
      refine ⟨fun j h => ?_, fun _ h => h, fun _ h => h⟩
      rw [hasTransaction_iff] at h ⊢
      rwa [ids_categorize]
  | _ => exact ⟨fun _ h => h, fun _ h => h, fun _ h => h⟩

theorem Changes.extends (h : Changes s s') : Extends s s' :=
  h.keeps (P := Extends s) (fun hs hchange => hs.trans hchange.extends) (.refl s)

/-- **No operation deletes what others may refer to.** -/
theorem extends_run (s : Store) (ops : List Operation) : Extends s (s.run ops) :=
  (changes_run s ops).extends

/-! ### The invariant -/

/-- The category and the tags of a rule are there. -/
structure HasNamesOf (s : Store) (r : Rule) : Prop where
  category : ∀ c, r.setCategory = some c → s.hasCategory c = true
  tags : ∀ g ∈ r.addTags, s.hasTag g = true

/-- **The records are in order:** they have ids of their own, refer to records that are there, and
their texts can be read. -/
structure Sound (s : Store) : Prop where
  transactions : (s.transactions.map TransactionRow.id).Nodup
  dates : ∀ r ∈ s.transactions, ∃ d : Date, r.date = d.iso
  links : ∀ l ∈ s.links, s.hasTransaction l.transaction = true ∧ s.hasTag l.tag = true
  rules : ∀ r ∈ s.rules, s.HasNamesOf r
  periods : ∀ g ∈ s.targets, ∃ k : PeriodKind, g.period = k.name

theorem sound_empty : Sound empty where
  transactions := .nil
  dates := nofun
  links := nofun
  rules := nofun
  periods := nofun

theorem Sound.transactions_change (hs : s.Sound) (h : Change s s') :
    (s'.transactions.map TransactionRow.id).Nodup := by
  cases h with
  | transaction p hamount haccount hcategory =>
      rw [List.map_append]
      exact nodup_append_freshId hs.transactions
  | categorize i c hc =>
      rw [ids_categorize]
      exact hs.transactions
  | _ => exact hs.transactions

theorem Sound.dates_change (hs : s.Sound) (h : Change s s') :
    ∀ r ∈ s'.transactions, ∃ d : Date, r.date = d.iso := by
  cases h with
  | transaction p hamount haccount hcategory =>
      intro r hr
      rcases List.mem_append.1 hr with hr | hr
      · exact hs.dates r hr
      · cases List.mem_singleton.1 hr
        exact ⟨p.date, rfl⟩
  | categorize i c hc =>
      intro r hr
      obtain ⟨t, ht, rfl⟩ := List.mem_map.1 hr
      obtain ⟨d, hd⟩ := hs.dates t ht
      refine ⟨d, ?_⟩
      split <;> exact hd
  | _ => exact hs.dates

theorem Sound.links_change (hs : s.Sound) (h : Change s s') :
    ∀ l ∈ s'.links, s'.hasTransaction l.transaction = true ∧ s'.hasTag l.tag = true := by
  have hold : ∀ l ∈ s.links, s'.hasTransaction l.transaction = true ∧ s'.hasTag l.tag = true := by
    intro l hl
    obtain ⟨htransaction, htag⟩ := hs.links l hl
    exact ⟨h.extends.transactions _ htransaction, h.extends.tags _ htag⟩
  cases h with
  | link i g source hnew htransaction htag =>
      intro l hl
      rcases List.mem_append.1 hl with hl | hl
      · exact hold l hl
      · cases List.mem_singleton.1 hl
        exact ⟨htransaction, htag⟩
  | _ => exact hold

theorem Sound.rules_change (hs : s.Sound) (h : Change s s') : ∀ r ∈ s'.rules, s'.HasNamesOf r := by
  have hold : ∀ r ∈ s.rules, s'.HasNamesOf r := fun r hr =>
    ⟨fun c hc => h.extends.categories c ((hs.rules r hr).category c hc),
      fun g hg => h.extends.tags g ((hs.rules r hr).tags g hg)⟩
  cases h with
  | rule d hcategory htags =>
      intro r hr
      rcases List.mem_append.1 hr with hr | hr
      · exact hold r hr
      · cases List.mem_singleton.1 hr
        exact ⟨hcategory, fun g hg => htags g (mem_ascending_iff.1 hg)⟩
  | enableRule i enabled =>
      intro r hr
      obtain ⟨r', hr', rfl⟩ := List.mem_map.1 hr
      obtain ⟨hcategory, htags⟩ := hold r' hr'
      split <;> exact ⟨hcategory, htags⟩
  | deleteRule i => exact fun r hr => hold r (List.mem_filter.1 hr).1
  | _ => exact hold

theorem Sound.periods_change (hs : s.Sound) (h : Change s s') :
    ∀ g ∈ s'.targets, ∃ k : PeriodKind, g.period = k.name := by
  cases h with
  | target name filter period hamount =>
      intro g hg
      rcases List.mem_append.1 hg with hg | hg
      · exact hs.periods g hg
      · cases List.mem_singleton.1 hg
        exact ⟨period, rfl⟩
  | _ => exact hs.periods

theorem Sound.change (hs : s.Sound) (h : Change s s') : s'.Sound where
  transactions := hs.transactions_change h
  dates := hs.dates_change h
  links := hs.links_change h
  rules := hs.rules_change h
  periods := hs.periods_change h

theorem Sound.run (hs : s.Sound) (ops : List Operation) : (s.run ops).Sound :=
  (changes_run s ops).keeps Sound.change hs

/-- **The invariant holds after every row of operations.** -/
theorem sound_run (ops : List Operation) : (run empty ops).Sound := sound_empty.run ops

end Coffer.Store
