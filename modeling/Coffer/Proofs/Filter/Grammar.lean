/-
**The grammar of filter texts.**

Rows of tokens that are filters are told by a grammar with three phrases:

    expr   := branch ("OR" branch)*
    branch := term+
    term   := "(" expr ")" | field | word | quoted

A derivation makes a tree: an expression asks for any of its branches, and a branch for all of its
terms, also where there is only one of them.  The normal form of this tree is what the reader makes
of the tokens.  No row of tokens has two derivations: whatever follows a phrase, where the phrase
ends is settled by its own tokens.

Main definitions:

* `Coffer.Filter.Derives` — **the grammar,** with the parts of each phrase;
* `Coffer.Filter.leaves`, `Coffer.Filter.leafOf?` — the leaves of a filter, and of a token.

Main results:

* `Coffer.Filter.Derives.ofTokens_eq` — what is derived is read, as the normal form of its tree;
* `Coffer.Filter.Derives.unique` — **a row of tokens has at most one derivation;**
* `Coffer.Filter.leaves_flatten`, `Coffer.Filter.Derives.leaves_eq` — every term is a leaf, in the
  order in which the terms are written.
-/

import Coffer.Proofs.Filter.Reading

set_option autoImplicit false

namespace Coffer.Filter

/-! ### The grammar -/

/-- The phrases of the grammar. -/
inductive Phrase
  | term
  | branch
  | expr

/-- **The grammar.** Tokens are a phrase with the given parts: a term is its own part, a branch has
its terms, and an expression has its branches. -/
inductive Derives : Phrase → List Token → List Filter → Prop
  | word (s : String) : Derives .term [.word s] [ofText s]
  | quoted (s : String) : Derives .term [.quoted s] [ofText s]
  | field {name value : String} {isQuoted : Bool} {p : Predicate} :
      Predicate.read name value isQuoted = .ok p →
      Derives .term [.field name value isQuoted] [.field p]
  | parens {ts : List Token} {bs : List Filter} :
      Derives .expr ts bs → Derives .term (.leftParen :: (ts ++ [.rightParen])) [.any bs]
  | single {ts : List Token} {fs : List Filter} :
      Derives .term ts fs → Derives .branch ts fs
  | more {ts ts' : List Token} {fs fs' : List Filter} :
      Derives .term ts fs → Derives .branch ts' fs' → Derives .branch (ts ++ ts') (fs ++ fs')
  | alone {ts : List Token} {fs : List Filter} :
      Derives .branch ts fs → Derives .expr ts [.all fs]
  | or {ts ts' : List Token} {fs bs : List Filter} :
      Derives .branch ts fs → Derives .expr ts' bs →
        Derives .expr (ts ++ .or :: ts') (.all fs :: bs)

/-- Whether tokens start a term: they do unless they are at an end, at an `OR` or at a closing
parenthesis. -/
def startsTerm : List Token → Bool
  | [] | .or :: _ | .rightParen :: _ => false
  | _ => true

/-- Whether tokens are at the end of an expression: at their end or at a closing parenthesis. -/
def endsExpr : List Token → Bool
  | [] | .rightParen :: _ => true
  | _ => false

theorem endsExpr_cons_iff {t : Token} {ts : List Token} :
    endsExpr (t :: ts) = true ↔ t = .rightParen := by
  cases t <;> simp [endsExpr]

theorem startsTerm_of_endsExpr {ts : List Token} (h : endsExpr ts = true) :
    startsTerm ts = false := by
  unfold endsExpr at h
  split at h
  · rfl
  · rfl
  · cases h

theorem flattenParts_append (k : Kind) (fs gs : List Filter) :
    flattenParts k (fs ++ gs) = flattenParts k fs ++ flattenParts k gs :=
  List.flatMap_append

theorem flattenParts_any_all (fs : List Filter) :
    flattenParts .any [.all fs] = spliceAny (joinAll (flattenParts .all fs)) := by
  rw [flattenParts_cons, ← flattenAll_eq]
  exact List.append_nil _

theorem flattenParts_all_any (bs : List Filter) :
    flattenParts .all [.any bs] = spliceAll (joinAny (flattenParts .any bs)) := by
  rw [flattenParts_cons, ← flattenAny_eq]
  exact List.append_nil _

namespace Derives

variable {p : Phrase} {ts ts' : List Token} {fs bs : List Filter}

/-! ### Trees of derivations -/

theorem ne_nil (h : Derives p ts fs) : fs ≠ [] := by
  induction h with
  | word s => exact List.cons_ne_nil _ _
  | quoted s => exact List.cons_ne_nil _ _
  | field hp => exact List.cons_ne_nil _ _
  | parens _ _ => exact List.cons_ne_nil _ _
  | single _ ih => exact ih
  | more _ _ ih _ => exact List.append_ne_nil_of_left_ne_nil ih _
  | alone _ _ => exact List.cons_ne_nil _ _
  | or _ _ _ _ => exact List.cons_ne_nil _ _

/-- The parts of a phrase can be written. -/
theorem isWritten (h : Derives p ts fs) : ∀ f ∈ fs, f.IsWritten := by
  induction h with
  | word s => exact List.forall_mem_singleton.2 (.text s _)
  | quoted s => exact List.forall_mem_singleton.2 (.text s _)
  | field hp => exact List.forall_mem_singleton.2 (.field (Predicate.isWritten_of_read hp))
  | parens h ih => exact List.forall_mem_singleton.2 (.any h.ne_nil ih)
  | single _ ih => exact ih
  | more _ _ ih ih' => exact List.forall_mem_append.2 ⟨ih, ih'⟩
  | alone h ih => exact List.forall_mem_singleton.2 (.all h.ne_nil ih)
  | or h _ ih ih' => exact List.forall_mem_cons.2 ⟨.all h.ne_nil ih, ih'⟩

theorem flattenParts_ne_nil (k : Kind) (h : Derives p ts fs) : flattenParts k fs ≠ [] :=
  Filter.flattenParts_ne_nil k h.ne_nil fun f hf => (h.isWritten f hf).isNormal_flatten

/-- The first token of a phrase starts a term. -/
theorem startsTerm_append (h : Derives p ts fs) (rest : List Token) :
    startsTerm (ts ++ rest) = true := by
  induction h generalizing rest with
  | word s => rfl
  | quoted s => rfl
  | field hp => rfl
  | parens _ _ => rfl
  | single _ ih => exact ih rest
  | more _ _ ih _ => rw [List.append_assoc]; exact ih _
  | alone _ ih => exact ih rest
  | or _ _ ih _ => rw [List.append_assoc]; exact ih _

/-! ### Reading what is derived -/

/-- What the reader makes of a phrase: terms and branches add their terms, in normal form, and an
expression adds its branches. -/
def Reads : Phrase → List Token → List Filter → Prop
  | .term, ts, fs | .branch, ts, fs => ReadsTerms ts (flattenParts .all fs)
  | .expr, ts, bs => ReadsBranches ts (flattenParts .any bs)

/-- A branch is one of the branches of an expression. -/
theorem readsBranches (h : Derives .branch ts fs) (hreads : ReadsTerms ts (flattenParts .all fs)) :
    ReadsBranches ts (flattenParts .any [.all fs]) := by
  rw [flattenParts_any_all]
  exact hreads.readsBranches (h.flattenParts_ne_nil .all)

/-- **Phrases are read part by part.** -/
theorem reads (h : Derives p ts fs) : Reads p ts fs := by
  induction h with
  | word s => exact .word s
  | quoted s => exact .quoted s
  | field hp => exact .field hp
  | parens _ ih =>
      rw [Reads, flattenParts_all_any]
      exact ReadsBranches.parens ih
  | single _ ih => exact ih
  | more _ _ ih ih' =>
      rw [Reads, flattenParts_append]
      exact ReadsTerms.append ih ih'
  | alone h ih => exact h.readsBranches ih
  | @or ts ts' fs bs h _ ih ih' =>
      have hparts := flattenParts_append .any [.all fs] bs
      rw [List.singleton_append] at hparts
      rw [Reads, hparts]
      exact (h.readsBranches ih).or ih'

/-- **What is derived is read,** as the normal form of its tree. -/
theorem ofTokens_eq (h : Derives .expr ts bs) :
    ofTokens ts = .ok (some (flatten (.any bs))) := by
  rw [h.reads.ofTokens_eq, ← flattenAny_eq]
  rfl

/-! ### Only one derivation -/

/-- How the tokens behind a phrase tell where it ends: nothing is needed behind a term, no term
follows a branch, and an expression is followed by a closing parenthesis or nothing. -/
def EndsBefore : Phrase → List Token → Prop
  | .term, _ => True
  | .branch, rest => startsTerm rest = false
  | .expr, rest => endsExpr rest = true

theorem endsBefore_rightParen (rest : List Token) : EndsBefore .expr (.rightParen :: rest) := rfl

theorem endsBefore_or (rest : List Token) : EndsBefore .branch (.or :: rest) := rfl

/-- Of two phrases at the front of the same tokens, neither is longer than the other. -/
theorem unique_of_append (h : Derives p ts fs) {fs' : List Filter} {rest rest' : List Token}
    (h' : Derives p ts' fs') (hrest : EndsBefore p rest) (hrest' : EndsBefore p rest')
    (heq : ts ++ rest = ts' ++ rest') : ts = ts' ∧ fs = fs' := by
  induction h generalizing ts' fs' rest rest' with
  | word s => cases h' <;> cases heq; exact ⟨rfl, rfl⟩
  | quoted s => cases h' <;> cases heq; exact ⟨rfl, rfl⟩
  | field hp =>
      cases h' with
      | field hp' =>
          cases heq
          rw [hp] at hp'
          cases hp'
          exact ⟨rfl, rfl⟩
      | _ => cases heq
  | @parens ts bs h ih =>
      cases h' with
      | @parens ts' bs' h' =>
          have htail : ts ++ .rightParen :: rest = ts' ++ .rightParen :: rest' := by
            simpa using heq
          obtain ⟨rfl, rfl⟩ :=
            ih h' (endsBefore_rightParen _) (endsBefore_rightParen _) htail
          exact ⟨rfl, rfl⟩
      | _ => cases heq
  | @single ts fs h ih =>
      cases h' with
      | single h' => exact ih h' trivial trivial heq
      | @more ts₁ ts₂ fs₁ fs₂ h₁ h₂ =>
          -- the other branch goes on where this one ends
          rw [List.append_assoc] at heq
          obtain ⟨rfl, rfl⟩ := ih h₁ trivial trivial heq
          have hstarts := h₂.startsTerm_append rest'
          rw [← List.append_cancel_left heq, hrest] at hstarts
          cases hstarts
  | @more ts₁ ts₂ fs₁ fs₂ h₁ h₂ ih₁ ih₂ =>
      rw [List.append_assoc] at heq
      cases h' with
      | single h' =>
          obtain ⟨rfl, rfl⟩ := ih₁ h' trivial trivial heq
          have hstarts := h₂.startsTerm_append rest
          rw [List.append_cancel_left heq, hrest'] at hstarts
          cases hstarts
      | @more ts₁' ts₂' fs₁' fs₂' h₁' h₂' =>
          rw [List.append_assoc] at heq
          obtain ⟨rfl, rfl⟩ := ih₁ h₁' trivial trivial heq
          obtain ⟨rfl, rfl⟩ := ih₂ h₂' hrest hrest' (List.append_cancel_left heq)
          exact ⟨rfl, rfl⟩
  | @alone ts fs h ih =>
      cases h' with
      | alone h' =>
          obtain ⟨rfl, rfl⟩ :=
            ih h' (startsTerm_of_endsExpr hrest) (startsTerm_of_endsExpr hrest') heq
          exact ⟨rfl, rfl⟩
      | @or ts₁ ts₂ fs₁ bs₂ h₁ h₂ =>
          rw [List.append_assoc] at heq
          obtain ⟨rfl, rfl⟩ := ih h₁ (startsTerm_of_endsExpr hrest) (endsBefore_or _) heq
          rw [List.append_cancel_left heq] at hrest
          cases hrest
  | @or ts₁ ts₂ fs₁ bs₂ h₁ h₂ ih₁ ih₂ =>
      rw [List.append_assoc] at heq
      cases h' with
      | alone h' =>
          obtain ⟨rfl, rfl⟩ := ih₁ h' (endsBefore_or _) (startsTerm_of_endsExpr hrest') heq
          rw [← List.append_cancel_left heq] at hrest'
          cases hrest'
      | @or ts₁' ts₂' fs₁' bs₂' h₁' h₂' =>
          rw [List.append_assoc] at heq
          obtain ⟨rfl, rfl⟩ := ih₁ h₁' (endsBefore_or _) (endsBefore_or _) heq
          have htail : ts₂ ++ rest = ts₂' ++ rest' := by
            simpa using List.append_cancel_left heq
          obtain ⟨rfl, rfl⟩ := ih₂ h₂' hrest hrest' htail
          exact ⟨rfl, rfl⟩

/-- **A row of tokens has at most one derivation.** -/
theorem unique {fs' : List Filter} (h : Derives .expr ts fs) (h' : Derives .expr ts fs') :
    fs = fs' := by
  have hend : EndsBefore .expr [] := rfl
  exact (h.unique_of_append h' hend hend rfl).2

end Derives

/-! ### Leaves -/

mutual

/-- The leaves of a filter from left to right. -/
def leaves : Filter → List Filter
  | .field p => [.field p]
  | .all parts => leavesOf parts
  | .any parts => leavesOf parts
  | .text s scope => [.text s scope]

/-- The leaves of all parts one after another. -/
def leavesOf : List Filter → List Filter
  | [] => []
  | f :: rest => leaves f ++ leavesOf rest

end

theorem leavesOf_eq (fs : List Filter) : leavesOf fs = fs.flatMap leaves := by
  induction fs with
  | nil => rfl
  | cons f rest ih => rw [leavesOf, ih, List.flatMap_cons]

/-- The leaf that a token stands for: words, quoted texts and field terms that can be read have
one. -/
def leafOf? : Token → Option Filter
  | .word s => some (ofText s)
  | .quoted s => some (ofText s)
  | .field name value isQuoted => (Predicate.read name value isQuoted).toOption.map .field
  | .or | .leftParen | .rightParen => none

theorem leaves_node (k : Kind) (fs : List Filter) : leaves (k.node fs) = fs.flatMap leaves := by
  cases k <;> exact leavesOf_eq fs

theorem leaves_join (k : Kind) (fs : List Filter) : leaves (k.join fs) = fs.flatMap leaves := by
  rcases k.join_eq_node_or fs with ⟨f, rfl⟩ | hnode
  · rw [Kind.join_singleton, List.flatMap_singleton]
  · rw [hnode, leaves_node]

theorem flatMap_leaves_splice (k : Kind) (f : Filter) :
    (k.splice f).flatMap leaves = leaves f := by
  rcases k.exists_node_or f with ⟨fs, rfl⟩ | hkind
  · rw [Kind.splice_node, leaves_node]
  · rw [Kind.splice_of_not_holds hkind, List.flatMap_singleton]

/-- **The normal form of a filter has the leaves of the filter,** in their order. -/
theorem leaves_flatten (f : Filter) : leaves (flatten f) = leaves f := by
  induction f with
  | field p => rfl
  | text s scope => rfl
  | node k parts ih =>
      rw [flatten_node, leaves_join, flattenParts, List.flatMap_assoc, leaves_node]
      refine List.flatMap_congr fun f hf => ?_
      rw [Function.comp_apply, flatMap_leaves_splice, ih f hf]

/-- **Every term is a leaf,** in the order in which the terms are written. -/
theorem Derives.leaves_eq {p : Phrase} {ts : List Token} {fs : List Filter} (h : Derives p ts fs) :
    fs.flatMap leaves = ts.filterMap leafOf? := by
  induction h with
  | word s => rfl
  | quoted s => rfl
  | field hp => simp [leaves, leafOf?, hp, Except.toOption]
  | parens _ ih =>
      rw [List.filterMap_cons_none rfl, List.filterMap_append, ← ih]
      simp [leaves, leavesOf_eq, leafOf?]
  | single _ ih => exact ih
  | more _ _ ih ih' => rw [List.flatMap_append, List.filterMap_append, ih, ih']
  | alone _ ih => simpa [leaves, leavesOf_eq] using ih
  | or _ _ ih ih' =>
      rw [List.flatMap_cons, List.filterMap_append, List.filterMap_cons_none rfl, ← ih,
        ← ih', leaves, leavesOf_eq]

end Coffer.Filter
