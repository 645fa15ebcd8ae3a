/-
**The normal form of a filter.**

A filter is in normal form if every inner node has at least two parts, none of them of its own kind.
Every filter has a normal form: from the leaves up, the parts of parts of the same kind are spliced
in, and a single part stands for its node.  Neither this nor the choice of what free texts mean
changes the other, and the normal form selects what the filter selects.

What holds of the nodes that ask for all of their parts holds of those that ask for any of them, so
the lemmas are about both kinds at once.

Main definitions:

* `Coffer.Filter.Kind` — the two kinds of inner nodes;
* `Coffer.Filter.IsNormal` — normal form;
* `Coffer.Filter.flatten` — the normal form of a filter.

Main results:

* `Coffer.Filter.flatten_eq_self` — a filter in normal form is its own normal form;
* `Coffer.Filter.flatten_withScope`, `Coffer.Filter.reclassify_flatten` — free texts are settled in
  the normal form as they are in the filter;
* `Coffer.Filter.selects_flatten` — **the normal form of a filter selects what the filter selects.**
-/

import Coffer.Filter.Matching
import Coffer.Filter.Reader
import Mathlib.Data.List.Basic

set_option autoImplicit false

namespace Coffer.Filter

/-! ### The two kinds of inner nodes -/

/-- The kinds of inner nodes: those that ask for all of their parts, and those that ask for any. -/
inductive Kind
  | all
  | any

namespace Kind

/-- The node of a kind. -/
def node : Kind → List Filter → Filter
  | .all => .all
  | .any => .any

/-- Whether a filter is a node of the kind. -/
def holds : Kind → Filter → Bool
  | .all, .all _ => true
  | .any, .any _ => true
  | _, _ => false

/-- The parts that a filter adds to a node of the kind. -/
def splice : Kind → Filter → List Filter
  | .all => spliceAll
  | .any => spliceAny

/-- The node of a kind, unless it has a single part. -/
def join : Kind → List Filter → Filter
  | .all => joinAll
  | .any => joinAny

/-- How the node of a kind tests its parts. -/
def test {α : Type} : Kind → List α → (α → Bool) → Bool
  | .all => List.all
  | .any => List.any

variable (k : Kind) {f : Filter} {fs : List Filter}

theorem node_injective {k k' : Kind} {fs gs : List Filter} (h : k.node fs = k'.node gs) :
    k = k' ∧ fs = gs := by
  cases k <;> cases k' <;> simp_all [node]

/-- A filter is a node of the kind or it is not. -/
theorem exists_node_or (f : Filter) : (∃ fs, f = k.node fs) ∨ k.holds f = false := by
  cases k with
  | all =>
      cases f with
      | all fs => exact .inl ⟨fs, rfl⟩
      | _ => exact .inr rfl
  | any =>
      cases f with
      | any fs => exact .inl ⟨fs, rfl⟩
      | _ => exact .inr rfl

@[simp] theorem splice_node (fs : List Filter) : k.splice (k.node fs) = fs := by
  cases k <;> rfl

theorem splice_of_not_holds {k : Kind} (h : k.holds f = false) : k.splice f = [f] := by
  cases k <;> cases f <;> first | rfl | cases h

@[simp] theorem join_singleton (f : Filter) : k.join [f] = f := by
  cases k <;> rfl

/-- A list with a single member is joined to it, every other list to a node. -/
theorem join_eq_node_or (fs : List Filter) : (∃ f, fs = [f]) ∨ k.join fs = k.node fs := by
  match fs with
  | [] => exact .inr (by cases k <;> rfl)
  | [f] => exact .inl ⟨f, rfl⟩
  | _ :: _ :: _ => exact .inr (by cases k <;> rfl)

theorem join_of_two_le (h : 2 ≤ fs.length) : k.join fs = k.node fs := by
  rcases k.join_eq_node_or fs with ⟨f, rfl⟩ | hnode
  · exact absurd h (by simp)
  · exact hnode

/-- What is joined can be spliced again. -/
theorem splice_join (h : ∀ f ∈ fs, k.holds f = false) : k.splice (k.join fs) = fs := by
  rcases k.join_eq_node_or fs with ⟨f, rfl⟩ | hnode
  · rw [join_singleton, splice_of_not_holds (h f (by simp))]
  · rw [hnode, splice_node]

theorem test_singleton {α : Type} (x : α) (p : α → Bool) : k.test [x] p = p x := by
  cases k <;> simp [test]

theorem test_flatMap {α β : Type} (xs : List α) (g : α → List β) (p : β → Bool) :
    k.test (xs.flatMap g) p = k.test xs fun x => k.test (g x) p := by
  cases k with
  | all => exact List.all_flatMap
  | any => exact List.any_flatMap

/-- Two tests that agree on the parts. -/
theorem test_congr {α : Type} {p q : α → Bool} {xs : List α} (h : ∀ x ∈ xs, p x = q x) :
    k.test xs p = k.test xs q := by
  induction xs with
  | nil => cases k <;> rfl
  | cons x rest ih =>
      have hx := h x (by simp)
      have hrest := ih fun y hy => h y (by simp [hy])
      cases k <;> simp_all [test]

end Kind

/-- Induction on a filter, with one case for both kinds of inner nodes and the hypothesis for each
of the parts. -/
@[elab_as_elim, induction_eliminator]
theorem inductionOn {motive : Filter → Prop} (field : ∀ p, motive (.field p))
    (node : ∀ (k : Kind) parts, (∀ f ∈ parts, motive f) → motive (k.node parts))
    (text : ∀ s scope, motive (.text s scope)) (f : Filter) : motive f :=
  @Filter.rec motive (fun fs => ∀ f ∈ fs, motive f) field (node .all) (node .any) text
    (fun _ h => nomatch h)
    (fun _ _ hf hfs _ hg => (List.mem_cons.1 hg).elim (· ▸ hf) (hfs _)) f

/-! ### Normal form -/

/-- **Normal form:** every inner node has at least two parts, none of them of its own kind. -/
inductive IsNormal : Filter → Prop
  | field (p : Predicate) : IsNormal (.field p)
  | node {k : Kind} {parts : List Filter} : 2 ≤ parts.length → (∀ f ∈ parts, IsNormal f) →
      (∀ f ∈ parts, k.holds f = false) → IsNormal (k.node parts)
  | text (s : String) (scope : TextScope) : IsNormal (.text s scope)

mutual

/-- **The normal form of a filter,** made from the leaves up: parts of the same kind are spliced in,
and a single part stands for itself. -/
def flatten : Filter → Filter
  | .field p => .field p
  | .all parts => joinAll (flattenAll parts)
  | .any parts => joinAny (flattenAny parts)
  | .text s scope => .text s scope

/-- The normal forms of parts all of which are asked for. -/
def flattenAll : List Filter → List Filter
  | [] => []
  | f :: rest => spliceAll (flatten f) ++ flattenAll rest

/-- The normal forms of parts any of which is asked for. -/
def flattenAny : List Filter → List Filter
  | [] => []
  | f :: rest => spliceAny (flatten f) ++ flattenAny rest

end

/-- The parts of the normal form of a node. -/
def flattenParts (k : Kind) (fs : List Filter) : List Filter := fs.flatMap (k.splice ∘ flatten)

theorem flattenParts_cons (k : Kind) (f : Filter) (rest : List Filter) :
    flattenParts k (f :: rest) = k.splice (flatten f) ++ flattenParts k rest := rfl

theorem flattenAll_eq (fs : List Filter) : flattenAll fs = flattenParts .all fs := by
  induction fs with
  | nil => rfl
  | cons f rest ih => rw [flattenAll, ih, flattenParts_cons, Kind.splice]

theorem flattenAny_eq (fs : List Filter) : flattenAny fs = flattenParts .any fs := by
  induction fs with
  | nil => rfl
  | cons f rest ih => rw [flattenAny, ih, flattenParts_cons, Kind.splice]

theorem flatten_node (k : Kind) (fs : List Filter) :
    flatten (k.node fs) = k.join (flattenParts k fs) := by
  cases k with
  | all => rw [← flattenAll_eq]; rfl
  | any => rw [← flattenAny_eq]; rfl

namespace IsNormal

variable {k : Kind} {f : Filter} {fs : List Filter}

/-- What is known of the parts of a node in normal form. -/
theorem of_node (h : (k.node fs).IsNormal) :
    2 ≤ fs.length ∧ ∀ f ∈ fs, f.IsNormal ∧ k.holds f = false := by
  generalize hf : k.node fs = f at h
  cases h with
  | field p => cases k <;> cases hf
  | text s scope => cases k <;> cases hf
  | node h2 hparts hkind =>
      obtain ⟨rfl, rfl⟩ := Kind.node_injective hf
      exact ⟨h2, fun f hf => ⟨hparts f hf, hkind f hf⟩⟩

/-- What a filter in normal form is spliced into is in normal form, and not of the kind. -/
theorem of_mem_splice (k : Kind) (h : f.IsNormal) {g : Filter} (hg : g ∈ k.splice f) :
    g.IsNormal ∧ k.holds g = false := by
  rcases k.exists_node_or f with ⟨fs, rfl⟩ | hkind
  · rw [Kind.splice_node] at hg
    exact h.of_node.2 g hg
  · rw [Kind.splice_of_not_holds hkind] at hg
    obtain rfl := List.mem_singleton.1 hg
    exact ⟨h, hkind⟩

theorem splice_ne_nil (k : Kind) (h : f.IsNormal) : k.splice f ≠ [] := by
  rcases k.exists_node_or f with ⟨fs, rfl⟩ | hkind
  · rw [Kind.splice_node]
    exact List.ne_nil_of_length_pos (Nat.lt_of_lt_of_le (by decide) h.of_node.1)
  · rw [Kind.splice_of_not_holds hkind]
    exact List.cons_ne_nil f []

/-- What is spliced can be joined again. -/
theorem join_splice (k : Kind) (h : f.IsNormal) : k.join (k.splice f) = f := by
  rcases k.exists_node_or f with ⟨fs, rfl⟩ | hkind
  · rw [Kind.splice_node, k.join_of_two_le h.of_node.1]
  · rw [Kind.splice_of_not_holds hkind, Kind.join_singleton]

/-- Joining filters in normal form gives one, if none of them is of the kind. -/
theorem join (hne : fs ≠ []) (h : ∀ f ∈ fs, f.IsNormal ∧ k.holds f = false) :
    (k.join fs).IsNormal := by
  match fs, hne with
  | [f], _ =>
      rw [Kind.join_singleton]
      exact (h f (by simp)).1
  | f :: g :: rest, _ =>
      rw [k.join_of_two_le (by simp)]
      exact .node (by simp) (fun f hf => (h f hf).1) fun f hf => (h f hf).2

end IsNormal

/-! ### The normal form -/

/-- **A filter in normal form is its own normal form.** -/
theorem flatten_eq_self {f : Filter} (h : f.IsNormal) : flatten f = f := by
  induction h with
  | field p => rfl
  | text s scope => rfl
  | @node k parts h2 _ hkind ih =>
      have hparts : flattenParts k parts = parts.flatMap fun f => [f] := by
        refine List.flatMap_congr fun f hf => ?_
        rw [Function.comp_apply, ih f hf, Kind.splice_of_not_holds (hkind f hf)]
      rw [flatten_node, hparts, List.flatMap_singleton', k.join_of_two_le h2]

/-- The normal forms of the parts of a node. -/
theorem flattenParts_ne_nil (k : Kind) {fs : List Filter} (hne : fs ≠ [])
    (h : ∀ f ∈ fs, (flatten f).IsNormal) : flattenParts k fs ≠ [] := by
  obtain ⟨f, rest, rfl⟩ := List.exists_cons_of_ne_nil hne
  rw [flattenParts_cons]
  exact List.append_ne_nil_of_left_ne_nil ((h f (by simp)).splice_ne_nil k) _

/-- The parts of the normal form of a node are in normal form, and not of its kind. -/
theorem of_mem_flattenParts {k : Kind} {fs : List Filter} (h : ∀ f ∈ fs, (flatten f).IsNormal)
    {g : Filter} (hg : g ∈ flattenParts k fs) : g.IsNormal ∧ k.holds g = false := by
  obtain ⟨f, hf, hg⟩ := List.mem_flatMap.1 hg
  exact (h f hf).of_mem_splice k hg

theorem splice_flatten_node {k : Kind} {fs : List Filter} (h : ∀ f ∈ fs, (flatten f).IsNormal) :
    k.splice (flatten (k.node fs)) = flattenParts k fs := by
  rw [flatten_node]
  exact k.splice_join fun _ hg => (of_mem_flattenParts h hg).2

theorem isNormal_flatten_node (k : Kind) {fs : List Filter} (hne : fs ≠ [])
    (h : ∀ f ∈ fs, (flatten f).IsNormal) : (flatten (k.node fs)).IsNormal := by
  rw [flatten_node]
  exact .join (flattenParts_ne_nil k hne h) fun _ => of_mem_flattenParts h

/-! ### Free texts -/

theorem hasPredicate_node (k : Kind) (fs : List Filter) :
    (k.node fs).hasPredicate = fs.any hasPredicate := by
  cases k <;> exact anyHasPredicate_eq fs

theorem hasPredicate_join (k : Kind) (fs : List Filter) :
    (k.join fs).hasPredicate = fs.any hasPredicate := by
  rcases k.join_eq_node_or fs with ⟨f, rfl⟩ | hnode
  · simp
  · rw [hnode, hasPredicate_node]

theorem any_hasPredicate_splice (k : Kind) (f : Filter) :
    (k.splice f).any hasPredicate = f.hasPredicate := by
  rcases k.exists_node_or f with ⟨fs, rfl⟩ | hkind
  · rw [Kind.splice_node, hasPredicate_node]
  · rw [Kind.splice_of_not_holds hkind]
    simp

/-- The normal form has a predicate if the filter has one. -/
theorem hasPredicate_flatten (f : Filter) : (flatten f).hasPredicate = f.hasPredicate := by
  induction f with
  | field p => rfl
  | text s scope => rfl
  | node k parts ih =>
      rw [flatten_node, hasPredicate_join, flattenParts, List.any_flatMap, hasPredicate_node]
      refine Kind.any.test_congr fun f hf => ?_
      rw [Function.comp_apply, any_hasPredicate_splice, ih f hf]

theorem withScope_node (scope : TextScope) (k : Kind) (fs : List Filter) :
    (k.node fs).withScope scope = k.node (fs.map (withScope scope)) := by
  rw [← withScopes_eq]
  cases k <;> rfl

/-- Settling free texts leaves the predicates. -/
theorem hasPredicate_withScope (scope : TextScope) (f : Filter) :
    (f.withScope scope).hasPredicate = f.hasPredicate := by
  induction f with
  | field p => rfl
  | text s _ => rfl
  | node k parts ih =>
      rw [withScope_node, hasPredicate_node, hasPredicate_node, List.any_map]
      exact Kind.any.test_congr ih

/-- Of two scopes the one given last counts. -/
theorem withScope_withScope (scope scope' : TextScope) (f : Filter) :
    (f.withScope scope').withScope scope = f.withScope scope := by
  induction f with
  | field p => rfl
  | text s _ => rfl
  | node k parts ih =>
      rw [withScope_node, withScope_node, withScope_node, List.map_map]
      exact congrArg k.node (List.map_congr_left ih)

/-- Settling free texts once is enough. -/
theorem reclassify_withScope (scope : TextScope) (f : Filter) :
    (f.withScope scope).reclassify = f.reclassify := by
  rw [reclassify, hasPredicate_withScope, withScope_withScope, reclassify]

theorem reclassify_reclassify (f : Filter) : f.reclassify.reclassify = f.reclassify :=
  reclassify_withScope _ f

theorem holds_withScope (scope : TextScope) (k : Kind) (f : Filter) :
    k.holds (f.withScope scope) = k.holds f := by
  cases k <;> cases f <;> rfl

theorem withScope_join (scope : TextScope) (k : Kind) (fs : List Filter) :
    (k.join fs).withScope scope = k.join (fs.map (withScope scope)) := by
  match fs with
  | [] => cases k <;> rfl
  | [f] => cases k <;> rfl
  | f :: g :: rest =>
      rw [k.join_of_two_le (by simp), withScope_node, k.join_of_two_le (by simp)]

theorem splice_withScope (scope : TextScope) (k : Kind) (f : Filter) :
    k.splice (f.withScope scope) = (k.splice f).map (withScope scope) := by
  rcases k.exists_node_or f with ⟨fs, rfl⟩ | hkind
  · rw [withScope_node, Kind.splice_node, Kind.splice_node]
  · have hkind' : k.holds (f.withScope scope) = false := by rw [holds_withScope, hkind]
    rw [Kind.splice_of_not_holds hkind', Kind.splice_of_not_holds hkind, List.map_singleton]

/-- **Free texts can be settled before or after.** -/
theorem flatten_withScope (scope : TextScope) (f : Filter) :
    flatten (f.withScope scope) = (flatten f).withScope scope := by
  induction f with
  | field p => rfl
  | text s _ => rfl
  | node k parts ih =>
      rw [withScope_node, flatten_node, flatten_node, withScope_join, flattenParts, flattenParts,
        List.flatMap_map, List.map_flatMap]
      refine congrArg k.join (List.flatMap_congr fun f hf => ?_)
      rw [Function.comp_apply, Function.comp_apply, ih f hf, splice_withScope]

/-- Free texts are settled in the normal form as they are in the filter. -/
theorem reclassify_flatten (f : Filter) : (flatten f).reclassify = flatten f.reclassify := by
  rw [reclassify, reclassify, hasPredicate_flatten, flatten_withScope]

/-! ### What is selected -/

theorem selects_node (k : Kind) (fs : List Filter) (v : View) :
    (k.node fs).selects v = k.test fs (selects · v) := by
  cases k with
  | all => exact allSelect_eq fs v
  | any => exact anySelects_eq fs v

theorem selects_join (k : Kind) (fs : List Filter) (v : View) :
    (k.join fs).selects v = k.test fs (selects · v) := by
  rcases k.join_eq_node_or fs with ⟨f, rfl⟩ | hnode
  · rw [Kind.join_singleton, Kind.test_singleton]
  · rw [hnode, selects_node]

theorem test_selects_splice (k : Kind) (f : Filter) (v : View) :
    k.test (k.splice f) (selects · v) = f.selects v := by
  rcases k.exists_node_or f with ⟨fs, rfl⟩ | hkind
  · rw [Kind.splice_node, selects_node]
  · rw [Kind.splice_of_not_holds hkind, Kind.test_singleton]

/-- **The normal form of a filter selects what the filter selects.** -/
theorem selects_flatten (f : Filter) (v : View) : (flatten f).selects v = f.selects v := by
  induction f with
  | field p => rfl
  | text s scope => rfl
  | node k parts ih =>
      rw [flatten_node, selects_join, flattenParts, Kind.test_flatMap, selects_node]
      refine k.test_congr fun f hf => ?_
      rw [Function.comp_apply, test_selects_splice, ih f hf]

end Coffer.Filter
