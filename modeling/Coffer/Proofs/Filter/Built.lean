/-
**Filters that are built are in normal form.**

Filters come from texts, read strictly or for a search; they are put together, and the meaning of
their free texts is settled anew.  Whatever is done to them in this way, and in whatever order, they
stay in normal form, and each of their leaves can be written.

To put filters together is to put the rows of their parts together, one behind the other, and in
normal form a filter and the row of its parts determine each other.  So it obeys the laws of putting
rows together: it does not matter which filters are put together first, no filter adds nothing, and
the leaves stand in the order of the filters that they come from.

Main definitions:

* `Coffer.Filter.Kind.parts`, `Coffer.Filter.Kind.combine` — the parts that a filter adds to a node
  of a kind, and filters put together to a node of the kind;
* `Coffer.Filter.Built` — **filters that are built.**

Main results:

* `Coffer.Filter.Kind.parts_combine` — the parts of filters put together are their parts in a row;
* `Coffer.Filter.Kind.combine_append` — lists of filters can be put together one by one;
* `Coffer.Filter.Built.isRead` — **what is built is in normal form and can be written;**
* `Coffer.Filter.built_in_normal_form` — the same, with the laws of putting filters together.
-/

import Coffer.Proofs.Filter.Composition

set_option autoImplicit false

namespace Coffer.Filter

/-! ### Rows of parts -/

namespace Kind

variable (k : Kind) {f : Option Filter} {fs gs : List (Option Filter)}

/-- The parts that a filter, if there is one, adds to a node of the kind. -/
def parts (f : Option Filter) : List Filter := f.toList.flatMap k.splice

/-- The node of the kind with the given parts, if there are any. -/
def join? (fs : List Filter) : Option Filter := if fs.isEmpty then none else some (k.join fs)

/-- Filters, of which some may be missing, put together to a node of the kind. -/
def combine (fs : List (Option Filter)) : Option Filter := k.join? (fs.flatMap k.parts)

@[simp] theorem parts_none : k.parts none = [] := rfl

@[simp] theorem parts_some (f : Filter) : k.parts (some f) = k.splice f :=
  List.flatMap_singleton _ _

theorem join?_of_ne_nil {fs : List Filter} (h : fs ≠ []) : k.join? fs = some (k.join fs) := by
  simp [join?, h]

/-- What filters in normal form add is in normal form, and not of the kind. -/
theorem of_mem_parts (h : ∀ f ∈ fs, ∀ g ∈ f, g.IsRead) {g : Filter} (hg : g ∈ fs.flatMap k.parts) :
    g.IsRead ∧ k.holds g = false := by
  obtain ⟨f, hf, hg⟩ := List.mem_flatMap.1 hg
  cases f with
  | none => simp at hg
  | some f =>
      rw [parts_some] at hg
      exact (h _ hf f rfl).of_mem_splice k hg

/-- Parts that are not of the kind can be taken from their node again. -/
theorem parts_join? {fs : List Filter} (h : ∀ f ∈ fs, k.holds f = false) :
    k.parts (k.join? fs) = fs := by
  cases fs with
  | nil => rfl
  | cons f rest => rw [k.join?_of_ne_nil (List.cons_ne_nil f rest), parts_some, k.splice_join h]

/-- A filter in normal form is the node of its parts. -/
theorem join?_parts (h : ∀ g ∈ f, g.IsRead) : k.join? (k.parts f) = f := by
  cases f with
  | none => rfl
  | some f =>
      have hnormal : f.IsNormal := (h f rfl).normal
      rw [parts_some, k.join?_of_ne_nil (hnormal.splice_ne_nil k), hnormal.join_splice]

/-- **The parts of filters put together are their parts in a row.** -/
theorem parts_combine (h : ∀ f ∈ fs, ∀ g ∈ f, g.IsRead) :
    k.parts (k.combine fs) = fs.flatMap k.parts :=
  k.parts_join? fun _ hg => (k.of_mem_parts h hg).2

/-- **Lists of filters can be put together one by one.** -/
theorem combine_append (hf : ∀ f ∈ fs, ∀ g ∈ f, g.IsRead) (hg : ∀ f ∈ gs, ∀ g ∈ f, g.IsRead) :
    k.combine (fs ++ gs) = k.combine [k.combine fs, k.combine gs] := by
  have hparts : [k.combine fs, k.combine gs].flatMap k.parts =
      fs.flatMap k.parts ++ gs.flatMap k.parts := by
    rw [List.flatMap_cons, List.flatMap_singleton, k.parts_combine hf, k.parts_combine hg]
  rw [combine, List.flatMap_append, ← hparts, ← combine]

/-- Putting together keeps the normal form. -/
theorem isRead_combine (h : ∀ f ∈ fs, ∀ g ∈ f, g.IsRead) : ∀ g ∈ k.combine fs, g.IsRead := by
  intro g hg
  unfold combine join? at hg
  split at hg
  · cases hg
  · next hne =>
      obtain rfl := Option.some_inj.1 hg
      exact .join k (by simpa using hne) fun f hf => k.of_mem_parts h hf

end Kind

/-! ### Both of two filters, any of some filters -/

theorem both_eq_join? (f g : Option Filter) :
    both f g = Kind.all.join? (Kind.all.parts f ++ Kind.all.parts g) := rfl

theorem both_eq_combine (f g : Option Filter) : both f g = Kind.all.combine [f, g] := by
  rw [both_eq_join?, Kind.combine, List.flatMap_cons, List.flatMap_singleton]

theorem anyOf_eq_combine (fs : List (Option Filter)) : anyOf fs = Kind.any.combine fs := rfl

section Laws

variable {f g h : Option Filter}

theorem isRead_both (hf : ∀ f' ∈ f, f'.IsRead) (hg : ∀ g' ∈ g, g'.IsRead) :
    ∀ h' ∈ both f g, h'.IsRead := by
  rw [both_eq_combine]
  exact Kind.isRead_combine .all (List.forall_mem_cons.2 ⟨hf, List.forall_mem_singleton.2 hg⟩)

theorem parts_both (hf : ∀ f' ∈ f, f'.IsRead) (hg : ∀ g' ∈ g, g'.IsRead) :
    Kind.all.parts (both f g) = Kind.all.parts f ++ Kind.all.parts g := by
  have hpair : ∀ a ∈ [f, g], ∀ a' ∈ a, a'.IsRead :=
    List.forall_mem_cons.2 ⟨hf, List.forall_mem_singleton.2 hg⟩
  rw [both_eq_combine, Kind.parts_combine .all hpair, List.flatMap_cons, List.flatMap_singleton]

theorem both_none_right (hf : ∀ f' ∈ f, f'.IsRead) : both f none = f := by
  rw [both_eq_join?, Kind.parts_none, List.append_nil, Kind.join?_parts .all hf]

theorem both_none_left (hf : ∀ f' ∈ f, f'.IsRead) : both none f = f := by
  rw [both_eq_join?, Kind.parts_none, List.nil_append, Kind.join?_parts .all hf]

/-- **It does not matter which two of three filters are put together first.** -/
theorem both_assoc (hf : ∀ f' ∈ f, f'.IsRead) (hg : ∀ g' ∈ g, g'.IsRead)
    (hh : ∀ h' ∈ h, h'.IsRead) :
    both (both f g) h = both f (both g h) := by
  rw [both_eq_join? (both f g) h, parts_both hf hg, both_eq_join? f (both g h), parts_both hg hh,
    List.append_assoc]

end Laws

/-! ### Leaves -/

/-- The leaves of a filter, if there is one. -/
def leavesIn (f : Option Filter) : List Filter := f.toList.flatMap leaves

theorem leavesIn_some (f : Filter) : leavesIn (some f) = leaves f := List.flatMap_singleton _ _

theorem leavesIn_join? (k : Kind) (fs : List Filter) :
    leavesIn (k.join? fs) = fs.flatMap leaves := by
  cases fs with
  | nil => rfl
  | cons f rest => rw [k.join?_of_ne_nil (List.cons_ne_nil f rest), leavesIn_some, leaves_join]

theorem flatMap_leaves_parts (k : Kind) (f : Option Filter) :
    (k.parts f).flatMap leaves = leavesIn f := by
  cases f with
  | none => rfl
  | some f => rw [Kind.parts_some, flatMap_leaves_splice, leavesIn_some]

/-- **The leaves of filters put together are their leaves in a row.** -/
theorem leavesIn_combine (k : Kind) (fs : List (Option Filter)) :
    leavesIn (k.combine fs) = fs.flatMap leavesIn := by
  rw [Kind.combine, leavesIn_join?, List.flatMap_assoc]
  exact List.flatMap_congr fun f _ => flatMap_leaves_parts k f

theorem leavesIn_both (f g : Option Filter) : leavesIn (both f g) = leavesIn f ++ leavesIn g := by
  rw [both_eq_combine, leavesIn_combine, List.flatMap_cons, List.flatMap_singleton]

theorem leavesIn_anyOf (fs : List (Option Filter)) : leavesIn (anyOf fs) = fs.flatMap leavesIn := by
  rw [anyOf_eq_combine, leavesIn_combine]

/-! ### Filters that are built -/

/-- **Filters that are built,** from texts, by putting them together and by settling what their free
texts mean. -/
inductive Built : Option Filter → Prop
  | parse {s : String} {f : Option Filter} : parse s = .ok f → Built f
  | search (s : String) : Built (parseSearch s)
  | both {f g : Option Filter} : Built f → Built g → Built (both f g)
  | anyOf {fs : List (Option Filter)} : (∀ f ∈ fs, Built f) → Built (anyOf fs)
  | reclassify {f : Option Filter} : Built f → Built (f.map reclassify)

/-- A filter that can be written, and is its own normal form once its free texts are settled. -/
theorem isRead_of_settled {f : Filter} (h : f.IsWritten ∧ flatten f.reclassify = f) : f.IsRead where
  normal := by
    rw [← h.2]
    exact (h.1.withScope _).isNormal_flatten
  written := h.1

/-- Settling free texts leaves the nodes as they are. -/
theorem IsRead.reclassify {f : Filter} (h : f.IsRead) : f.reclassify.IsRead := by
  have hself : flatten f.reclassify = f.reclassify := by
    rw [← reclassify_flatten, flatten_eq_self h.normal]
  refine isRead_of_settled ⟨h.written.withScope _, ?_⟩
  rw [reclassify_reclassify, hself]

/-- **What is built is in normal form and can be written.** -/
theorem Built.isRead {f : Option Filter} (h : Built f) : ∀ f' ∈ f, f'.IsRead := by
  induction h with
  | parse hparse =>
      rintro f' rfl
      exact isRead_of_settled (isWritten_of_parse hparse)
  | search s =>
      intro f' hf'
      exact isRead_of_settled (isWritten_of_parseSearch hf')
  | both _ _ ihf ihg => exact isRead_both ihf ihg
  | anyOf _ ih => exact Kind.isRead_combine .any ih
  | @reclassify f _ ih =>
      intro f' hf'
      obtain ⟨g, hg, rfl⟩ := Option.map_eq_some_iff.1 hf'
      exact (ih g hg).reclassify

/-- **What is built is in normal form,** with leaves that can be written.  Of three filters that are
built it does not matter which two are put together first, and no filter adds nothing; lists of
filters can be put together one by one; and the leaves of filters put together are their leaves in a
row. -/
theorem built_in_normal_form :
    (∀ f, Built (some f) → f.IsNormal ∧ f.IsWritten) ∧
    (∀ f g h, Built f → Built g → Built h → both (both f g) h = both f (both g h)) ∧
    (∀ f, Built f → both f none = f ∧ both none f = f) ∧
    (∀ fs gs, (∀ f ∈ fs ++ gs, Built f) → anyOf (fs ++ gs) = anyOf [anyOf fs, anyOf gs]) ∧
    (∀ f g, leavesIn (both f g) = leavesIn f ++ leavesIn g) ∧
    ∀ fs, leavesIn (anyOf fs) = fs.flatMap leavesIn := by
  refine ⟨fun f hf => ?_, fun f g h hf hg hh => ?_, fun f hf => ?_, fun fs gs hbuilt => ?_,
    leavesIn_both, leavesIn_anyOf⟩
  · exact ⟨(hf.isRead f rfl).normal, (hf.isRead f rfl).written⟩
  · exact both_assoc hf.isRead hg.isRead hh.isRead
  · exact ⟨both_none_right hf.isRead, both_none_left hf.isRead⟩
  · obtain ⟨hfs, hgs⟩ := List.forall_mem_append.1 hbuilt
    exact Kind.combine_append .any (fun f hf => (hfs f hf).isRead) fun f hf => (hgs f hf).isRead

/-- What is asked for of tea or milk on a card, put together in two ways, and settled anew: the free
texts mean what they meant until then, and the parts of a part of the same kind are spliced in. -/
theorem built_in_normal_form_teaOrMilk :
    ∃ drinks card milk,
      parse "tea OR milk" = .ok (some drinks) ∧ parse "acc:Card" = .ok (some card) ∧
      parse "milk" = .ok (some milk) ∧
      both (both (some drinks) (some card)) (some milk) =
        both (some drinks) (both (some card) (some milk)) ∧
      (both (both (some drinks) (some card)) (some milk)).map reclassify =
        some (.all [.any [.text "tea" .description, .text "milk" .description],
          .field ⟨.account, .equal, .text "Card"⟩, .text "milk" .description]) ∧
      anyOf ([some drinks, none] ++ [some milk]) =
        anyOf [anyOf [some drinks, none], anyOf [some milk]] ∧
      both (some card) none = some card ∧
      (Filter.any [.text "tea" .metadata, .text "milk" .metadata,
        .text "milk" .metadata]).IsNormal := by
  have hdrinks : parse "tea OR milk" =
      .ok (some (.any [.text "tea" .metadata, .text "milk" .metadata])) := by
    cbv
  have hcard : parse "acc:Card" = .ok (some (.field ⟨.account, .equal, .text "Card"⟩)) := by cbv
  have hmilk : parse "milk" = .ok (some (.text "milk" .metadata)) := by cbv
  have hnone : Built none := .search ""
  obtain ⟨hnormal, hassoc, hidentity, hlists, -⟩ := built_in_normal_form
  have hlist : ∀ f ∈ [some (Filter.any [.text "tea" .metadata, .text "milk" .metadata]), none] ++
      [some (.text "milk" .metadata)], Built f := by
    intro f hf
    simp only [List.cons_append, List.nil_append, List.mem_cons, List.not_mem_nil, or_false] at hf
    rcases hf with rfl | rfl | rfl
    · exact .parse hdrinks
    · exact hnone
    · exact .parse hmilk
  refine ⟨_, _, _, hdrinks, hcard, hmilk, ?_, rfl, ?_, ?_, ?_⟩
  · exact hassoc _ _ _ (.parse hdrinks) (.parse hcard) (.parse hmilk)
  · exact hlists _ _ hlist
  · exact (hidentity _ (.parse hcard)).1
  · exact (hnormal _ (.anyOf hlist)).1

end Coffer.Filter
