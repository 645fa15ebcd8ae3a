/-
**What filters put together select.**

To ask for two filters at once is to ask for less than each of them, and to ask for one of two is to
ask for no more than both.  It is not quite to ask for what both select, and for what either
selects: a predicate in one of the filters tells that the free texts of the other mean the
description, where they may have meant everything written about a transaction.  A text in the
description is written about the transaction, so all that can happen is that a transaction is lost;
and nothing happens if both filters have predicates, or neither of them has.

Filters can also be put together without their texts.  Then free texts keep what they mean.  Both of
two filters select exactly what each of them selects, whatever their shape: a filter that asks for
all of no parts selects everything, as no filter does, so nothing is lost where it adds nothing.
Hence all filters of a list select what they have in common, in whatever way they are put together
two by two.

Any of some filters selects what one of them selects.  It does so unless each of them asks for any
of no parts at all: such a filter adds nothing, and where nothing is added no filter is left, which
selects everything.

Main definitions:

* `Coffer.Filter.sharedScope` — what free texts mean in two filters put together;
* `Coffer.Filter.Grouping` — a way of putting filters together two by two.

Main results:

* `Coffer.Filter.selects_withScope_of_description` — a filter selects no more with its free texts in
  descriptions only;
* `Coffer.Filter.exists_parse_groups` — what two texts put together select;
* `Coffer.Filter.groups_narrow` — **both of two filters select less, and either of them no more;**
* `Coffer.Filter.both_selects_iff` — **both of two filters select what each of them does, and all
  filters of a list what all of them do;**
* `Coffer.Filter.anyOf_selects_iff` — **when any of some filters selects what one of them does.**
-/

import Coffer.Filter.Combine
import Coffer.Proofs.Filter.Composition

set_option autoImplicit false

namespace Coffer.Filter

variable {f g : Filter} {v : View}

/-! ### Less and more -/

theorem Kind.test_map {α β : Type} (k : Kind) (g : α → β) (p : β → Bool) (xs : List α) :
    k.test (xs.map g) p = k.test xs (p ∘ g) := by
  cases k with
  | all => exact List.all_map
  | any => exact List.any_map

/-- A test is passed wherever a stricter one is. -/
theorem Kind.test_mono {α : Type} (k : Kind) {p q : α → Bool} {xs : List α}
    (h : ∀ x ∈ xs, p x = true → q x = true) (hp : k.test xs p = true) : k.test xs q = true := by
  cases k with
  | all => exact List.all_eq_true.2 fun x hx => h x hx (List.all_eq_true.1 hp x hx)
  | any =>
      obtain ⟨x, hx, hpx⟩ := List.any_eq_true.1 hp
      exact List.any_eq_true.2 ⟨x, hx, h x hx hpx⟩

/-- A node with settled free texts tests its parts with theirs settled. -/
theorem selects_withScope_node (scope : TextScope) (k : Kind) (fs : List Filter) (v : View) :
    ((k.node fs).withScope scope).selects v = k.test fs fun f => (f.withScope scope).selects v := by
  rw [withScope_node, selects_node, Kind.test_map]
  rfl

/-- What is found in a description is found in what is written about the transaction. -/
theorem findsText_of_description {s : String} (h : findsText s .description v = true)
    (scope : TextScope) : findsText s scope v = true := by
  cases scope with
  | description => exact h
  | metadata =>
      have hdescription : Text.holdsLower (Text.lowercaseChars s.toList) v.transaction.description =
          true := h
      simp only [findsText, metadataHolds, hdescription, Bool.true_or]

/-- **A filter selects no more with its free texts in descriptions only.** -/
theorem selects_withScope_of_description (h : (f.withScope .description).selects v = true)
    (scope : TextScope) : (f.withScope scope).selects v = true := by
  induction f with
  | field p => exact h
  | text s _ => exact findsText_of_description h scope
  | node k parts ih =>
      rw [selects_withScope_node] at h ⊢
      exact k.test_mono ih h

/-! ### Texts put together -/

/-- What free texts mean in two filters put together: the description if there is a predicate in
either of them, else everything written about a transaction. -/
def sharedScope (f g : Filter) : TextScope :=
  if f.hasPredicate || g.hasPredicate then .description else .metadata

/-- What is read of a tree has a predicate if the tree has one. -/
theorem hasPredicate_reclassify_flatten (f : Filter) :
    (flatten f).reclassify.hasPredicate = f.hasPredicate := by
  rw [reclassify, hasPredicate_withScope, hasPredicate_flatten]

/-- Whatever free texts of a tree are given to mean, they mean it in what is read of the tree. -/
theorem selects_withScope_reclassify_flatten (scope : TextScope) (f : Filter) (v : View) :
    ((flatten f).reclassify.withScope scope).selects v = (f.withScope scope).selects v := by
  rw [reclassify, withScope_withScope, ← flatten_withScope, selects_flatten]

/-- What is read of a tree selects what the tree selects with its free texts settled. -/
theorem selects_reclassify_flatten (f : Filter) (v : View) :
    (flatten f).reclassify.selects v =
      (f.withScope (if f.hasPredicate then .description else .metadata)).selects v := by
  rw [reclassify_flatten, selects_flatten, reclassify]

/-- **What two texts put together select:** what both select, or what either selects, once their
free texts mean the same in both. -/
theorem exists_parse_groups {a b : String} (ha : parse a = .ok (some f))
    (hb : parse b = .ok (some g)) :
    ∃ both either, parse ("(" ++ a ++ ") (" ++ b ++ ")") = .ok (some both) ∧
      parse ("(" ++ a ++ ") OR (" ++ b ++ ")") = .ok (some either) ∧
      ∀ v, (both.selects v = true ↔ (f.withScope (sharedScope f g)).selects v = true ∧
          (g.withScope (sharedScope f g)).selects v = true) ∧
        (either.selects v = true ↔ (f.withScope (sharedScope f g)).selects v = true ∨
          (g.withScope (sharedScope f g)).selects v = true) := by
  obtain ⟨ts, bs, hscan, hts, rfl⟩ := exists_derives_of_parse ha
  obtain ⟨ts', bs', hscan', hts', rfl⟩ := exists_derives_of_parse hb
  have hand : ("(" ++ a ++ ") (" ++ b ++ ")").toList =
      '(' :: a.toList ++ [')'] ++ ' ' :: ('(' :: b.toList ++ [')']) := by
    simp
  have hor : ("(" ++ a ++ ") OR (" ++ b ++ ")").toList =
      '(' :: a.toList ++ [')'] ++ ' ' :: 'O' :: 'R' :: ' ' :: ('(' :: b.toList ++ [')']) := by
    simp
  refine ⟨_, _, parse_of_ofTokens (hand ▸ Token.scan_groups hscan hscan')
    (Derives.alone (hts.groups hts')).ofTokens_eq, parse_of_ofTokens
    (hor ▸ Token.scan_groups_or hscan hscan') (hts.groups_or hts').ofTokens_eq, fun v => ?_⟩
  -- the two groups stand in the tree of the whole text as they are
  generalize Filter.any bs = t
  generalize Filter.any bs' = t'
  have hall : (Filter.any [.all [t, t']]).hasPredicate = (t.hasPredicate || t'.hasPredicate) := by
    simp [hasPredicate, anyHasPredicate]
  have hany : (Filter.any [.all [t], .all [t']]).hasPredicate =
      (t.hasPredicate || t'.hasPredicate) := by
    simp [hasPredicate, anyHasPredicate]
  simp only [sharedScope, hasPredicate_reclassify_flatten, selects_withScope_reclassify_flatten,
    selects_reclassify_flatten, hall, hany]
  simp [withScope, withScopes, selects, allSelect, anySelects]

/-- A filter that is read has its free texts settled. -/
theorem reclassify_of_parse {s : String} (h : parse s = .ok (some f)) : f.reclassify = f := by
  obtain ⟨ts, bs, -, -, rfl⟩ := exists_derives_of_parse h
  exact reclassify_reclassify _

/-- Beside another filter a filter selects no more than alone. -/
theorem selects_of_selects_sharedScope (hf : f.reclassify = f)
    (h : (f.withScope (sharedScope f g)).selects v = true) : f.selects v = true := by
  rw [← hf, reclassify]
  cases hpredicate : f.hasPredicate with
  | true => simpa [sharedScope, hpredicate] using h
  | false =>
      unfold sharedScope at h
      split at h
      · exact selects_withScope_of_description h _
      · exact h

/-- Beside a filter that has predicates if it has some, a filter selects what it selects alone. -/
theorem withScope_sharedScope (hf : f.reclassify = f) (h : f.hasPredicate = g.hasPredicate) :
    f.withScope (sharedScope f g) = f := by
  have hown : sharedScope f g = if f.hasPredicate then .description else .metadata := by
    rw [sharedScope, ← h, Bool.or_self]
  rw [hown, ← reclassify, hf]

theorem sharedScope_comm (f g : Filter) : sharedScope f g = sharedScope g f := by
  rw [sharedScope, Bool.or_comm, ← sharedScope]

/-- **Both of two filters select less than each of them, and either of them no more than both.**
Two texts that are read can be put together.  What is read of them selects what both select, or what
either selects, once their free texts mean the same; and that is what they select alone if both have
predicates or neither of them has. -/
theorem groups_narrow {a b : String} (ha : parse a = .ok (some f)) (hb : parse b = .ok (some g)) :
    ∃ both either, parse ("(" ++ a ++ ") (" ++ b ++ ")") = .ok (some both) ∧
      parse ("(" ++ a ++ ") OR (" ++ b ++ ")") = .ok (some either) ∧
      ∀ v, (both.selects v = true → f.selects v = true ∧ g.selects v = true) ∧
        (either.selects v = true → f.selects v = true ∨ g.selects v = true) ∧
        (both.selects v = true ↔ (f.withScope (sharedScope f g)).selects v = true ∧
          (g.withScope (sharedScope f g)).selects v = true) ∧
        (either.selects v = true ↔ (f.withScope (sharedScope f g)).selects v = true ∨
          (g.withScope (sharedScope f g)).selects v = true) ∧
        (f.hasPredicate = g.hasPredicate →
          (both.selects v = true ↔ f.selects v = true ∧ g.selects v = true) ∧
          (either.selects v = true ↔ f.selects v = true ∨ g.selects v = true)) := by
  obtain ⟨both, either, hboth, heither, hselects⟩ := exists_parse_groups ha hb
  have hf := reclassify_of_parse ha
  have hg := reclassify_of_parse hb
  have hleft : ∀ v, (f.withScope (sharedScope f g)).selects v = true → f.selects v = true :=
    fun v => selects_of_selects_sharedScope hf
  have hright : ∀ v, (g.withScope (sharedScope f g)).selects v = true → g.selects v = true := by
    intro v h
    rw [sharedScope_comm] at h
    exact selects_of_selects_sharedScope hg h
  refine ⟨both, either, hboth, heither, fun v => ?_⟩
  obtain ⟨hand, hor⟩ := hselects v
  refine ⟨fun h => ?_, fun h => ?_, hand, hor, fun hsame => ?_⟩
  · exact (hand.1 h).imp (hleft v) (hright v)
  · exact (hor.1 h).imp (hleft v) (hright v)
  · have hleft' := withScope_sharedScope hf hsame
    have hright' := withScope_sharedScope hg hsame.symm
    rw [sharedScope_comm] at hright'
    rw [hand, hor, hleft', hright']
    exact ⟨Iff.rfl, Iff.rfl⟩

/-- A dinner that was paid by card. -/
def cardDinner : View where
  transaction := ⟨⟨some 1, ⟨2024, 3, 15, by decide⟩, none, "BISTRO", -40, some 1⟩, 1⟩
  tags := []
  category := some "Dining"
  account := some "Card"

/-- Alone, the free text is found in the category; beside a predicate it is looked for in the
description and the dinner is lost.  Beside another free text it is found as before. -/
theorem groups_narrow_cardDinner :
    (∃ f g both, parse "dining" = .ok (some f) ∧ parse "acc:Card" = .ok (some g) ∧
      parse "(dining) (acc:Card)" = .ok (some both) ∧
      f.selects cardDinner = true ∧ g.selects cardDinner = true ∧ both.selects cardDinner = false) ∧
    ∃ f g both, parse "dining" = .ok (some f) ∧ parse "\"2024-03\"" = .ok (some g) ∧
      parse "(dining) (\"2024-03\")" = .ok (some both) ∧ both.selects cardDinner = true := by
  have hdining : parse "dining" = .ok (some (.text "dining" .metadata)) := by cbv
  have hcard : parse "acc:Card" = .ok (some (.field ⟨.account, .equal, .text "Card"⟩)) := by cbv
  have hmonth : parse "\"2024-03\"" = .ok (some (.text "2024-03" .metadata)) := by cbv
  have htext : "(" ++ "dining" ++ ") (" ++ "acc:Card" ++ ")" = "(dining) (acc:Card)" := by decide
  have htext' : "(" ++ "dining" ++ ") (" ++ "\"2024-03\"" ++ ")" = "(dining) (\"2024-03\")" := by
    decide
  obtain ⟨both, either, hboth, _, hselects⟩ := groups_narrow hdining hcard
  obtain ⟨both', either', hboth', _, hselects'⟩ := groups_narrow hdining hmonth
  rw [htext] at hboth
  rw [htext'] at hboth'
  refine ⟨⟨_, _, both, hdining, hcard, hboth, by decide, by decide, ?_⟩,
    _, _, both', hdining, hmonth, hboth', ?_⟩
  · obtain ⟨-, -, hexact, -⟩ := hselects cardDinner
    rw [Bool.eq_false_iff]
    exact fun h => absurd (hexact.1 h).1 (by decide)
  · obtain ⟨-, -, -, -, hsame⟩ := hselects' cardDinner
    exact (hsame rfl).1.2 ⟨by decide, by decide⟩

/-! ### Both of two filters -/

/-- No parts that are asked for leave no filter, which selects everything. -/
theorem selectsBy_joinAll? (fs : List Filter) (v : View) :
    selectsBy (joinAll? fs) v = fs.all (selects · v) := by
  cases fs with
  | nil => rfl
  | cons f rest => exact selects_join .all (f :: rest) v

/-- What a filter adds to a filter that asks for all selects what the filter does. -/
theorem all_selects_spliceAll (f : Option Filter) (v : View) :
    (f.toList.flatMap spliceAll).all (selects · v) = selectsBy f v := by
  cases f with
  | none => rfl
  | some f =>
      rw [Option.toList_some, List.flatMap_singleton]
      exact test_selects_splice .all f v

/-- **Both of two filters select what each of them selects.** -/
theorem selectsBy_both (f g : Option Filter) (v : View) :
    selectsBy (both f g) v = (selectsBy f v && selectsBy g v) := by
  rw [both, selectsBy_joinAll?, List.all_append, all_selects_spliceAll, all_selects_spliceAll]

/-- One filter after the other, from the left. -/
theorem selectsBy_foldl_both (f : Option Filter) (fs : List (Option Filter)) (v : View) :
    selectsBy (fs.foldl both f) v = (selectsBy f v && fs.all (selectsBy · v)) := by
  induction fs generalizing f with
  | nil => simp
  | cons g rest ih => rw [List.foldl_cons, ih, selectsBy_both, List.all_cons, Bool.and_assoc]

/-- A way of putting filters together two by two, beginning with filters that may be missing. -/
inductive Grouping where
  | empty
  | one (f : Option Filter)
  | pair (g h : Grouping)

namespace Grouping

/-- The filters that are put together, from left to right. -/
def filters : Grouping → List (Option Filter)
  | empty => []
  | one f => [f]
  | pair g h => g.filters ++ h.filters

/-- The filter that comes of it. -/
def combined : Grouping → Option Filter
  | empty => none
  | one f => f
  | pair g h => both g.combined h.combined

/-- Whatever the grouping, all of the filters have to select. -/
theorem selectsBy_combined (g : Grouping) (v : View) :
    selectsBy g.combined v = g.filters.all (selectsBy · v) := by
  induction g with
  | empty => rfl
  | one f => simp [combined, filters]
  | pair g h ihg ihh => rw [combined, selectsBy_both, ihg, ihh, filters, List.all_append]

end Grouping

/-- **Both of two filters select what each of them does.**  One filter after the other, or in any
other grouping, filters put together select what all of them select. -/
theorem both_selects_iff :
    (∀ f g v, selectsBy (both f g) v = true ↔ selectsBy f v = true ∧ selectsBy g v = true) ∧
    (∀ (fs : List (Option Filter)) v,
      selectsBy (fs.foldl both none) v = true ↔ ∀ f ∈ fs, selectsBy f v = true) ∧
    ∀ (g : Grouping) v,
      selectsBy g.combined v = true ↔ ∀ f ∈ g.filters, selectsBy f v = true := by
  refine ⟨fun f g v => ?_, fun fs v => ?_, fun g v => ?_⟩
  · rw [selectsBy_both, Bool.and_eq_true]
  · rw [selectsBy_foldl_both, selectsBy, Bool.true_and, List.all_eq_true]
  · rw [g.selectsBy_combined, List.all_eq_true]

/-! ### Any of some filters -/

theorem spliceAny_eq_nil_iff : spliceAny f = [] ↔ f = .any [] := by
  unfold spliceAny
  split
  · rw [any.injEq]
  · next hany => exact ⟨nofun, fun heq => absurd heq (hany [])⟩

/-- Nothing is left of filters that ask for any of no parts. -/
theorem anyOf_eq_none_iff {fs : List (Option Filter)} :
    anyOf fs = none ↔ ∀ f, some f ∈ fs → f = .any [] := by
  have hparts : anyOf fs = none ↔ fs.flatMap (fun f => f.toList.flatMap spliceAny) = [] := by
    unfold anyOf joinAny?
    split
    · next hempty => simpa using hempty
    · next hne => simpa using hne
  rw [hparts, List.flatMap_eq_nil_iff]
  simp only [List.flatMap_eq_nil_iff, Option.mem_toList, spliceAny_eq_nil_iff]
  constructor
  · exact fun h f hf => h _ hf f rfl
  · rintro h _ hf f rfl
    exact h f hf

/-- What is left selects what one of the filters selects. -/
theorem selects_of_anyOf_eq_some {fs : List (Option Filter)} {g : Filter} (h : anyOf fs = some g)
    (v : View) : g.selects v = true ↔ ∃ f, some f ∈ fs ∧ f.selects v = true := by
  have hjoin : g = Kind.any.join (fs.flatMap fun f => f.toList.flatMap spliceAny) := by
    unfold anyOf joinAny? at h
    split at h
    · cases h
    · exact (Option.some_inj.1 h).symm
  have hsplice : ∀ f : Filter, (spliceAny f).any (selects · v) = f.selects v :=
    fun f => test_selects_splice .any f v
  rw [hjoin, selects_join]
  simp only [Kind.test, List.any_flatMap, hsplice, List.any_eq_true, Option.mem_toList]
  constructor
  · rintro ⟨_, hf, f, rfl, hselects⟩
    exact ⟨f, hf, hselects⟩
  · rintro ⟨f, hf, hselects⟩
    exact ⟨some f, hf, f, rfl, hselects⟩

/-- **Any of some filters selects what one of them does, exactly if not all of them ask for any of
no parts.** -/
theorem anyOf_selects_iff (fs : List (Option Filter)) (v : View) :
    (selectsBy (anyOf fs) v = true ↔ ∃ f, some f ∈ fs ∧ f.selects v = true) ↔
      ∃ f, some f ∈ fs ∧ f ≠ .any [] := by
  cases hany : anyOf fs with
  | some g =>
      have hparts : ∃ f, some f ∈ fs ∧ f ≠ .any [] := by
        by_contra hnone
        simp only [not_exists, not_and, not_not] at hnone
        rw [anyOf_eq_none_iff.2 hnone] at hany
        cases hany
      exact iff_of_true (selects_of_anyOf_eq_some hany v) hparts
  | none =>
      have hempty := anyOf_eq_none_iff.1 hany
      refine iff_of_false (fun hiff => ?_) fun ⟨f, hf, hne⟩ => hne (hempty f hf)
      -- no filter selects everything, and none of the parts selects anything
      obtain ⟨f, hf, hselects⟩ := hiff.1 rfl
      rw [hempty f hf] at hselects
      cases hselects

/-- A filter that asks for any of no parts selects nothing, but put together with nothing it selects
everything. -/
theorem anyOf_noParts :
    anyOf [some (.any [])] = none ∧
      (∀ v, (Filter.any []).selects v = false) ∧ ∀ v, selectsBy (anyOf [some (.any [])]) v = true :=
  ⟨rfl, fun _ => rfl, fun _ => rfl⟩

end Coffer.Filter
