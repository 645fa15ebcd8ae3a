/-
**Which saved filter a name stands for.**

The names of saved filters are told apart to the letter, but a filter is looked for by its name in
any case of ASCII letters, in the order of names.  So one name stands for all filters whose names
agree with it but for case, and the first of them is the one that is found and that a rule or a
target is bound to.  A filter is found by its own name exactly if no such name comes before it.
What can be read as an integer stands for an id and never for a name.

Main definitions:

* `Coffer.Store.AnswersTo` — the saved filter that a name stands for;
* `Coffer.Store.LeadsName` — no name that agrees with the name of a filter but for case comes before
  it.

Main results:

* `Coffer.find?_mergeSort_eq_some_iff` — what is found first in a list that has been put in order;
* `Coffer.Command.findFilter?_eq_some_iff` — **what is found by an id and by a name;**
* `Coffer.Command.own_name_iff` — **when a saved filter is found by its own name, and what rules and
  targets are bound to.**
-/

import Coffer.Proofs.Command.WellFormed

set_option autoImplicit false

namespace Coffer

/-! ### The first in order -/

/-- What is found first in a list that has been put in order: what comes before all else that could
be found. -/
theorem find?_mergeSort_eq_some_iff {α : Type} {le : α → α → Bool} {p : α → Bool}
    {xs : List α} {x : α} (htrans : ∀ a b c, le a b = true → le b c = true → le a c = true)
    (htotal : ∀ a b, (le a b || le b a) = true)
    (hanti : ∀ a ∈ xs, ∀ b ∈ xs, le a b = true → le b a = true → a = b) :
    (xs.mergeSort le).find? p = some x ↔
      x ∈ xs ∧ p x = true ∧ ∀ y ∈ xs, p y = true → le x y = true := by
  have hfirst : ∀ z, (xs.mergeSort le).find? p = some z → ∀ y ∈ xs, p y = true → le z y = true := by
    intro z hz y hy hp
    obtain ⟨-, before, behind, hsplit, hnot⟩ := List.find?_eq_some_iff_append.1 hz
    have hsorted := List.pairwise_mergeSort htrans htotal xs
    have hmem : y ∈ xs.mergeSort le := List.mem_mergeSort.2 hy
    rw [hsplit] at hsorted hmem
    rcases List.mem_append.1 hmem with hbefore | hrest
    · have hnone := hnot y hbefore
      rw [hp] at hnone
      cases hnone
    · rcases List.mem_cons.1 hrest with rfl | hbehind
      · simpa using htotal y y
      · exact (List.pairwise_cons.1 (List.pairwise_append.1 hsorted).2.1).1 y hbehind
  constructor
  · intro h
    exact ⟨List.mem_mergeSort.1 (List.mem_of_find?_eq_some h), List.find?_some h, hfirst x h⟩
  · rintro ⟨hx, hp, hbefore⟩
    cases hfind : (xs.mergeSort le).find? p with
    | none => exact absurd hp (List.find?_eq_none.1 hfind x (List.mem_mergeSort.2 hx))
    | some z =>
        have hz := List.mem_mergeSort.1 (List.mem_of_find?_eq_some hfind)
        rw [hanti z hz x hx (hfirst z hfind x hx hp) (hbefore z hz (List.find?_some hfind))]

namespace Text

theorem sameAscii_iff {a b : String} :
    sameAscii a b = true ↔ foldAscii a.toList = foldAscii b.toList := by
  simp [sameAscii]

theorem sameAscii_refl (a : String) : sameAscii a a = true := sameAscii_iff.2 rfl

end Text

namespace Store

variable {s : Store} {called : String} {f : SavedFilter}

/-! ### Names of filters -/

/-- **The saved filter that a name stands for:** its name agrees with it but for the case of ASCII
letters, and it is the first one whose name does. -/
structure AnswersTo (s : Store) (called : String) (f : SavedFilter) : Prop where
  there : f ∈ s.filters
  same : Text.sameAscii f.name called = true
  first : ∀ g ∈ s.filters, Text.sameAscii g.name called = true → f.name ≤ g.name

/-- No name that agrees with the name of a filter but for the case of ASCII letters comes before
it. -/
def LeadsName (s : Store) (f : SavedFilter) : Prop :=
  ∀ g ∈ s.filters, Text.sameAscii g.name f.name = true → f.name ≤ g.name

theorem answersTo_name_iff (hf : f ∈ s.filters) : s.AnswersTo f.name f ↔ s.LeadsName f :=
  ⟨fun h => h.first, fun h => ⟨hf, Text.sameAscii_refl f.name, h⟩⟩

/-- A name stands for the filter that is found first in the order of names. -/
theorem find?_listFilters_eq_some_iff (hnames : (s.filters.map SavedFilter.name).Nodup) :
    s.listFilters.find? (fun f => Text.sameAscii f.name called) = some f ↔
      s.AnswersTo called f := by
  have hle (a b : SavedFilter) : byText SavedFilter.name a b = true ↔ a.name ≤ b.name := by
    simp [byText]
  refine (find?_mergeSort_eq_some_iff (fun a b c => ?_)
    (fun a b => ?_) fun a ha b hb => ?_).trans ?_
  · simp only [hle]
    exact String.le_trans
  · rw [Bool.or_eq_true, hle, hle]
    exact String.le_total _ _
  · simp only [hle]
    exact fun hab hba => List.inj_on_of_nodup_map hnames ha hb (String.le_antisymm hab hba)
  · simp only [hle]
    exact ⟨fun ⟨hf, hsame, hfirst⟩ => ⟨hf, hsame, hfirst⟩,
      fun ⟨hf, hsame, hfirst⟩ => ⟨hf, hsame, hfirst⟩⟩

end Store

namespace Command

variable {w : Bool} {s t : Store} {called text : String} {f : SavedFilter}

/-! ### What is found -/

theorem findFilter?_of_integer {i : Int} (hcalled : Reading.int64? called = some i) :
    findFilter? s called = s.filter? i := by
  rw [findFilter?, hcalled]

theorem findFilter?_of_name (hcalled : Reading.int64? called = none) :
    findFilter? s called = s.listFilters.find? fun f => Text.sameAscii f.name called := by
  rw [findFilter?, hcalled]

/-- **What is found by an id and by a name:** an integer stands for the filter with this id, and any
other text for the first filter whose name agrees with it but for the case of ASCII letters. -/
theorem findFilter?_eq_some_iff (hids : s.DistinctIds) (hnames : s.DistinctNames) :
    findFilter? s called = some f ↔ match Reading.int64? called with
      | some i => f ∈ s.filters ∧ f.id = i
      | none => s.AnswersTo called f := by
  cases hcalled : Reading.int64? called with
  | some i =>
      rw [findFilter?_of_integer hcalled]
      exact find?_id_eq_some_iff hids.filters
  | none =>
      rw [findFilter?_of_name hcalled]
      exact Store.find?_listFilters_eq_some_iff hnames.filters

/-- By the name of a saved filter some filter is found. -/
theorem exists_findFilter?_of_name (hcalled : Reading.int64? f.name = none) (hf : f ∈ s.filters) :
    ∃ g, findFilter? s f.name = some g := by
  rw [findFilter?_of_name hcalled]
  refine Option.isSome_iff_exists.1 (List.find?_isSome.2 ⟨f, ?_, Text.sameAscii_refl f.name⟩)
  exact List.mem_mergeSort.2 hf

/-! ### What is bound -/

/-- When adding a target is accepted, and what it writes. -/
theorem outcome_addTarget_eq_ok_iff {name filter period : String} {amount : Float} :
    (∃ text, Steps.outcome ((addTarget name filter period amount).run w) s = (.ok text, t)) ↔
      w = true ∧ ∃ kind f i, PeriodKind.ofName? period = some kind ∧ findFilter? s filter = some f ∧
        s.addTarget name f.id kind amount = .ok (i, t) := by
  constructor
  · rintro ⟨text, h⟩
    obtain ⟨kind, s₁, hread, hfinds⟩ := Action.outcome_bind_eq_ok_iff.1 h
    obtain ⟨hkind, rfl⟩ := Action.outcome_demand_eq_ok_iff.1 hread
    obtain ⟨f, s₂, hlook, hwrites⟩ := Action.outcome_bind_eq_ok_iff.1 hfinds
    obtain ⟨hfound, rfl⟩ := outcome_savedFilter_eq_ok_iff.1 hlook
    obtain ⟨i, s₃, hattempt, hprint⟩ := Action.outcome_bind_eq_ok_iff.1 hwrites
    obtain ⟨hw, hwrite⟩ := Action.outcome_attempt_eq_ok_iff.1 hattempt
    obtain ⟨-, rfl⟩ := Action.outcome_pure_eq_ok_iff.1 hprint
    exact ⟨hw, kind, f, i, hkind, hfound, hwrite⟩
  · rintro ⟨hw, kind, f, i, hkind, hfound, hwrite⟩
    refine Steps.exists_outcome_bind_of_ok (Action.outcome_demand_eq_ok_iff.2 ⟨hkind, rfl⟩) ?_
    refine Steps.exists_outcome_bind_of_ok (outcome_savedFilter_eq_ok_iff.2 ⟨hfound, rfl⟩) ?_
    exact Steps.exists_outcome_bind_of_ok (Action.outcome_attempt_eq_ok_iff.2 ⟨hw, hwrite⟩) ⟨_, rfl⟩

/-- A command that adds a rule binds it to the filter that is found. -/
theorem rules_of_perform_addRule {c : Setting} {name : String} {category : Option String}
    {tags : List String} {order : Int}
    (h : perform c (.addRule name called category tags order) w s = (.ok text, t)) :
    ∃ f r, findFilter? s called = some f ∧ t.rules = s.rules ++ [r] ∧ r.filter = f.id := by
  obtain ⟨f, d, i, hfound, hbound, -, hwrite⟩ :=
    of_outcome_addRule ((perform_eq_outcome ..).symm.trans h)
  obtain ⟨-, rfl⟩ := Store.addRule_eq_ok hwrite
  exact ⟨f, _, hfound, rfl, hbound⟩

/-- A command that adds a target binds it to the filter that is found. -/
theorem targets_of_perform_addTarget {c : Setting} {name period : String} {amount : Float}
    (h : perform c (.addTarget name called period amount) w s = (.ok text, t)) :
    ∃ f g, findFilter? s called = some f ∧ t.targets = s.targets ++ [g] ∧ g.filter = f.id := by
  obtain ⟨-, kind, f, i, -, hfound, hwrite⟩ :=
    outcome_addTarget_eq_ok_iff.1 ⟨text, (perform_eq_outcome ..).symm.trans h⟩
  obtain ⟨-, kept, rfl⟩ := Store.addTarget_eq_ok hwrite
  exact ⟨f, _, hfound, rfl, rfl⟩

/-- **When a saved filter is found by its own name.**  Take any store that operations have made.  By
a text that can be read as an integer the filter with this id is found, whatever names there are.
By the name of a saved filter some filter is found whose name agrees with it but for the case of
ASCII letters: the filter itself exactly if no such name comes before its own.  What is found is
what a new rule or a new target is bound to. -/
theorem own_name_iff (ops : List Operation) :
    (∀ called i f, Reading.int64? called = some i →
      (findFilter? (Store.empty.run ops) called = some f ↔
        f ∈ (Store.empty.run ops).filters ∧ f.id = i)) ∧
    (∀ f ∈ (Store.empty.run ops).filters, Reading.int64? f.name = none →
      (findFilter? (Store.empty.run ops) f.name = some f ↔ (Store.empty.run ops).LeadsName f) ∧
      ∃ g, findFilter? (Store.empty.run ops) f.name = some g ∧
        (Store.empty.run ops).AnswersTo f.name g) ∧
    (∀ c name called category tags order w text t,
      perform c (.addRule name called category tags order) w (Store.empty.run ops) = (.ok text, t) →
      ∃ f r, findFilter? (Store.empty.run ops) called = some f ∧
        t.rules = (Store.empty.run ops).rules ++ [r] ∧ r.filter = f.id) ∧
    ∀ c name called period amount w text t,
      perform c (.addTarget name called period amount) w (Store.empty.run ops) = (.ok text, t) →
      ∃ f g, findFilter? (Store.empty.run ops) called = some f ∧
        t.targets = (Store.empty.run ops).targets ++ [g] ∧ g.filter = f.id := by
  have hids := Store.distinctIds_run ops
  have hnames := Store.distinctNames_run ops
  refine ⟨fun called i f hcalled => ?_, fun f hf hname => ?_, ?_, ?_⟩
  · rw [findFilter?_eq_some_iff hids hnames, hcalled]
  · have hanswers (g : SavedFilter) :
        findFilter? (Store.empty.run ops) f.name = some g ↔
          (Store.empty.run ops).AnswersTo f.name g := by
      rw [findFilter?_eq_some_iff hids hnames, hname]
    obtain ⟨g, hg⟩ := exists_findFilter?_of_name hname hf
    exact ⟨(hanswers f).trans (Store.answersTo_name_iff hf), g, hg, (hanswers g).1 hg⟩
  · intro c name called category tags order w text t h
    exact rules_of_perform_addRule h
  · intro c name called period amount w text t h
    exact targets_of_perform_addTarget h

/-- Two filters whose names differ in the case of a letter, and one whose name is an integer. -/
def twoCoffees : List Operation :=
  [.addFilter "coffee" "beans", .addFilter "Coffee" "espresso", .addFilter "1" "one"]

/-- By the name with the capital letter its filter is found, and by an integer no name is. -/
theorem own_name_iff_twoCoffees :
    findFilter? (Store.empty.run twoCoffees) "Coffee" = some ⟨2, "Coffee", "espresso"⟩ ∧
    findFilter? (Store.empty.run twoCoffees) "1" = some ⟨1, "coffee", "beans"⟩ := by
  obtain ⟨hid, hname, -⟩ := own_name_iff twoCoffees
  refine ⟨(hname ⟨2, "Coffee", "espresso"⟩ (by decide) (by decide)).1.2 ?_, ?_⟩
  · unfold Store.LeadsName
    decide
  · exact (hid "1" 1 ⟨1, "coffee", "beans"⟩ (by decide)).2 (by decide)

/-- By the name in small letters the other filter is found, and a target is bound to it. -/
theorem other_filter_for_coffee :
    ⟨1, "coffee", "beans"⟩ ∈ (Store.empty.run twoCoffees).filters ∧ Reading.int64? "coffee" = none ∧
    findFilter? (Store.empty.run twoCoffees) "coffee" = some ⟨2, "Coffee", "espresso"⟩ ∧
    ∃ text t, perform usual (.addTarget "Cafe" "coffee" "monthly" 40) true
      (Store.empty.run twoCoffees) =
        (.ok text, t) ∧
      t.targets = [⟨1, "Cafe", 2, "monthly", 40⟩] := by
  have hfound : findFilter? (Store.empty.run twoCoffees) "coffee" =
      some ⟨2, "Coffee", "espresso"⟩ := by
    rw [findFilter?_eq_some_iff (Store.distinctIds_run _) (Store.distinctNames_run _)]
    show Store.AnswersTo _ _ _
    exact ⟨by decide, by decide, by decide⟩
  refine ⟨by decide, by decide, hfound, ?_⟩
  have hmonthly : PeriodKind.ofName? "monthly" = some .monthly := by decide
  obtain ⟨text, htext⟩ := outcome_addTarget_eq_ok_iff.2 ⟨rfl, .monthly, _, 1, hmonthly, hfound,
    (rfl : (Store.empty.run twoCoffees).addTarget "Cafe" 2 .monthly 40 = .ok (1, _))⟩
  exact ⟨text, _, htext, by decide⟩

end Command

end Coffer
