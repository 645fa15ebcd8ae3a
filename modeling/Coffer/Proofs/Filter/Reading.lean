/-
**What the reader makes of a row of tokens.**

A stretch of tokens either adds terms to the branch that is being read, or is a group of branches.
How a long stretch is read follows from how its parts are read, so the reader can be followed along
the text of a filter without a look at its stack.

Whatever it reads is a filter in normal form that can be written: every leaf is one the language has
a text for, and no inner node is empty.

Main definitions:

* `Coffer.Filter.ReadsTerms`, `Coffer.Filter.ReadsBranches` — what a stretch of tokens does;
* `Coffer.Filter.IsWritten` — filters that can be written;
* `Coffer.Filter.Level.IsRead` — the invariant of a level.

Main results:

* `Coffer.Filter.ReadsBranches.or`, `Coffer.Filter.ReadsBranches.parens` — the grammar, as rules
  for stretches of tokens;
* `Coffer.Filter.isRead_of_readTokens` — **what is read is in normal form and can be written.**
-/

import Coffer.Proofs.Filter.NormalForm
import Coffer.Proofs.Filter.Terms

set_option autoImplicit false

namespace Coffer.Filter

/-! ### Stretches of tokens -/

/-- Tokens that add terms to the branch that is being read. -/
def ReadsTerms (ts : List Token) (fs : List Filter) : Prop :=
  ∀ l outer rest,
    readTokens l outer (ts ++ rest) = readTokens { l with terms := l.terms ++ fs } outer rest

/-- Tokens that add branches to a level in which no term has been read yet. -/
def ReadsBranches (ts : List Token) (fs : List Filter) : Prop :=
  ∀ bs outer, ∃ l : Level, l.terms ≠ [] ∧ l.closed = bs ++ fs ∧
    ∀ rest, readTokens ⟨bs, []⟩ outer (ts ++ rest) = readTokens l outer rest

namespace ReadsTerms

variable {ts ts' : List Token} {fs fs' : List Filter}

theorem append (h : ReadsTerms ts fs) (h' : ReadsTerms ts' fs') :
    ReadsTerms (ts ++ ts') (fs ++ fs') := by
  intro l outer rest
  rw [List.append_assoc, h, h', List.append_assoc]

theorem word (s : String) : ReadsTerms [.word s] [ofText s] := by
  intro l outer rest
  rfl

theorem quoted (s : String) : ReadsTerms [.quoted s] [ofText s] := by
  intro l outer rest
  rfl

theorem field {name value : String} {isQuoted : Bool} {p : Predicate}
    (h : Predicate.read name value isQuoted = .ok p) :
    ReadsTerms [.field name value isQuoted] [.field p] := by
  intro l outer rest
  rw [List.singleton_append, readTokens, h]
  rfl

/-- The terms of a branch are the filter that asks for all of them. -/
theorem readsBranches (h : ReadsTerms ts fs) (hne : fs ≠ []) :
    ReadsBranches ts (spliceAny (joinAll fs)) := by
  intro bs outer
  exact ⟨⟨bs, fs⟩, hne, rfl, fun rest => h ⟨bs, []⟩ outer rest⟩

end ReadsTerms

namespace ReadsBranches

variable {ts ts' : List Token} {fs fs' : List Filter}

/-- Branches with `OR` between them. -/
theorem or (h : ReadsBranches ts fs) (h' : ReadsBranches ts' fs') :
    ReadsBranches (ts ++ .or :: ts') (fs ++ fs') := by
  intro bs outer
  obtain ⟨l, hterms, hclosed, hl⟩ := h bs outer
  obtain ⟨l', hterms', hclosed', hl'⟩ := h' (bs ++ fs) outer
  refine ⟨l', hterms', by rw [hclosed', List.append_assoc], fun rest => ?_⟩
  have hempty : l.terms.isEmpty = false := by simpa using hterms
  rw [List.append_assoc, hl, List.cons_append, readTokens, hempty, Level.next, hclosed]
  exact hl' rest

/-- Branches in parentheses are one term. -/
theorem parens (h : ReadsBranches ts fs) :
    ReadsTerms (.leftParen :: ts ++ [.rightParen]) (spliceAll (joinAny fs)) := by
  intro l outer rest
  obtain ⟨l', hterms, hclosed, hl'⟩ := h [] (l :: outer)
  have hempty : l'.terms.isEmpty = false := by simpa using hterms
  rw [List.cons_append, List.cons_append, List.append_assoc, readTokens, Level.empty, hl',
    List.singleton_append, readTokens, hempty, Level.result, hclosed]
  rfl

/-- Branches on their own are the filter that asks for any of them. -/
theorem ofTokens_eq (h : ReadsBranches ts fs) : ofTokens ts = .ok (some (joinAny fs)) := by
  obtain ⟨l, hterms, hclosed, hl⟩ := h [] []
  have hempty : l.terms.isEmpty = false := by simpa using hterms
  have hread : readTokens Level.empty [] ts = .ok (joinAny fs) := by
    have hl := hl []
    rw [List.append_nil, readTokens, hempty, Level.result, hclosed] at hl
    exact hl
  cases ts with
  | nil => cases hread
  | cons t ts => rw [ofTokens, hread]; rfl

end ReadsBranches

/-! ### Filters that can be written -/

/-- **Filters that can be written:** every leaf can, and no inner node is empty. -/
inductive IsWritten : Filter → Prop
  | field {p : Predicate} : p.IsWritten → IsWritten (.field p)
  | all {parts : List Filter} : parts ≠ [] → (∀ f ∈ parts, IsWritten f) → IsWritten (.all parts)
  | any {parts : List Filter} : parts ≠ [] → (∀ f ∈ parts, IsWritten f) → IsWritten (.any parts)
  | text (s : String) (scope : TextScope) : IsWritten (.text s scope)

namespace IsWritten

variable {f : Filter} {fs : List Filter}

theorem node (k : Kind) (hne : fs ≠ []) (h : ∀ f ∈ fs, f.IsWritten) : (k.node fs).IsWritten := by
  cases k with
  | all => exact .all hne h
  | any => exact .any hne h

/-- What is known of the parts of a node that can be written. -/
theorem of_node {k : Kind} (h : (k.node fs).IsWritten) : fs ≠ [] ∧ ∀ f ∈ fs, f.IsWritten := by
  cases k with
  | all => cases h with | all hne hparts => exact ⟨hne, hparts⟩
  | any => cases h with | any hne hparts => exact ⟨hne, hparts⟩

/-- What free texts mean does not matter for writing. -/
theorem withScope (h : f.IsWritten) (scope : TextScope) : (f.withScope scope).IsWritten := by
  induction f with
  | field p => exact h
  | text s _ => exact .text s scope
  | node k parts ih =>
      obtain ⟨hne, hparts⟩ := h.of_node
      rw [withScope_node]
      refine .node k (by simpa using hne) fun g hg => ?_
      obtain ⟨f, hf, rfl⟩ := List.mem_map.1 hg
      exact ih f hf (hparts f hf)

/-- The normal form of a filter that can be written is in normal form. -/
theorem isNormal_flatten (h : f.IsWritten) : (flatten f).IsNormal := by
  induction f with
  | field p => exact .field p
  | text s scope => exact .text s scope
  | node k parts ih =>
      obtain ⟨hne, hparts⟩ := h.of_node
      exact isNormal_flatten_node k hne fun f hf => ih f hf (hparts f hf)

theorem of_mem_splice (k : Kind) (h : f.IsWritten) {g : Filter} (hg : g ∈ k.splice f) :
    g.IsWritten := by
  rcases k.exists_node_or f with ⟨fs, rfl⟩ | hkind
  · rw [Kind.splice_node] at hg
    exact h.of_node.2 g hg
  · rw [Kind.splice_of_not_holds hkind] at hg
    obtain rfl := List.mem_singleton.1 hg
    exact h

theorem join (k : Kind) (hne : fs ≠ []) (h : ∀ f ∈ fs, f.IsWritten) : (k.join fs).IsWritten := by
  rcases k.join_eq_node_or fs with ⟨f, rfl⟩ | hnode
  · rw [Kind.join_singleton]
    exact h f (by simp)
  · rw [hnode]
    exact .node k hne h

end IsWritten

/-! ### What is read -/

/-- What reading gives: a filter in normal form that can be written. -/
structure IsRead (f : Filter) : Prop where
  normal : f.IsNormal
  written : f.IsWritten

namespace IsRead

theorem of_mem_splice (k : Kind) {f : Filter} (h : f.IsRead) {g : Filter} (hg : g ∈ k.splice f) :
    g.IsRead ∧ k.holds g = false := by
  obtain ⟨hnormal, hkind⟩ := h.normal.of_mem_splice k hg
  exact ⟨⟨hnormal, h.written.of_mem_splice k hg⟩, hkind⟩

theorem join (k : Kind) {fs : List Filter} (hne : fs ≠ [])
    (h : ∀ f ∈ fs, f.IsRead ∧ k.holds f = false) : (k.join fs).IsRead where
  normal := .join hne fun f hf => ⟨(h f hf).1.normal, (h f hf).2⟩
  written := .join k hne fun f hf => (h f hf).1.written

end IsRead

namespace Level

/-- The invariant of a level: its branches and its terms are read, and each kind holds no parts of
its own. -/
structure IsRead (l : Level) : Prop where
  branches : ∀ f ∈ l.branches, f.IsRead ∧ Kind.any.holds f = false
  terms : ∀ f ∈ l.terms, f.IsRead ∧ Kind.all.holds f = false

variable {l : Level}

theorem isRead_empty : Level.empty.IsRead := by
  constructor <;> simp [Level.empty]

/-- A term keeps the invariant. -/
theorem IsRead.push (h : l.IsRead) {f : Filter} (hf : f.IsRead) : (l.push f).IsRead where
  branches := h.branches
  terms := by
    intro g hg
    rcases List.mem_append.1 hg with hg | hg
    · exact h.terms g hg
    · exact hf.of_mem_splice .all hg

/-- The branch that is being read, once it has a term. -/
theorem IsRead.joinAll_terms (h : l.IsRead) (hne : l.terms ≠ []) : (joinAll l.terms).IsRead :=
  .join .all hne h.terms

theorem IsRead.closed (h : l.IsRead) (hne : l.terms ≠ []) :
    ∀ f ∈ l.closed, f.IsRead ∧ Kind.any.holds f = false := by
  intro f hf
  rcases List.mem_append.1 hf with hf | hf
  · exact h.branches f hf
  · exact (h.joinAll_terms hne).of_mem_splice .any hf

/-- Starting another branch keeps the invariant. -/
theorem IsRead.next (h : l.IsRead) (hne : l.terms ≠ []) : l.next.IsRead where
  branches := h.closed hne
  terms := by simp [Level.next]

theorem IsRead.result (h : l.IsRead) (hne : l.terms ≠ []) : l.result.IsRead := by
  have hbranch := (h.joinAll_terms hne).normal.splice_ne_nil .any
  exact .join .any (List.append_ne_nil_of_right_ne_nil _ hbranch) (h.closed hne)

end Level

/-- **What is read is in normal form and can be written.** -/
theorem isRead_of_readTokens {l : Level} {outer : List Level} {ts : List Token} {f : Filter}
    (hl : l.IsRead) (houter : ∀ o ∈ outer, o.IsRead) (h : readTokens l outer ts = .ok f) :
    f.IsRead := by
  induction ts generalizing l outer with
  | nil =>
      rw [readTokens] at h
      split at h
      · cases h
      · next hne =>
          split at h
          · cases h
            exact hl.result (by simpa using hne)
          · cases h
  | cons t rest ih =>
      cases t with
      | word s => exact ih (hl.push ⟨.text s _, .text s _⟩) houter h
      | quoted s => exact ih (hl.push ⟨.text s _, .text s _⟩) houter h
      | leftParen =>
          refine ih Level.isRead_empty (fun o ho => ?_) h
          rcases List.mem_cons.1 ho with rfl | ho
          · exact hl
          · exact houter o ho
      | or =>
          rw [readTokens] at h
          split at h
          · cases h
          · next hne => exact ih (hl.next (by simpa using hne)) houter h
      | field name value isQuoted =>
          rw [readTokens] at h
          split at h
          · next p hp =>
              exact ih (hl.push ⟨.field p, .field (Predicate.isWritten_of_read hp)⟩) houter h
          · cases h
      | rightParen =>
          cases outer with
          | nil =>
              rw [readTokens] at h
              split at h <;> cases h
          | cons below outer =>
              rw [readTokens] at h
              split at h
              · cases h
              · next hne =>
                  have hbelow : below.IsRead := houter below (by simp)
                  have hresult := hl.result (by simpa using hne)
                  exact ih (hbelow.push hresult) (fun o ho => houter o (by simp [ho])) h

end Coffer.Filter
