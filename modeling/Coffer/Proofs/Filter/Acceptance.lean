/-
**What is read and what is refused.**

A row of tokens is read as a filter exactly if it is an expression of the grammar.  The filter is
the normal form of the only tree that the tokens have, and its leaves are the words, quoted texts
and field terms as they stand in the row.

Everything else is refused.  Parentheses that do not balance are never read; where they balance and
all field terms can be read, what is wrong is an `OR` without an expression on one of its sides or a
group without terms, and the parentheses are not complained about.

Main definitions:

* `Coffer.Filter.Closes`, `Coffer.Filter.Balanced` — parentheses that balance;
* `Coffer.Filter.IsAnswer` — **what the answer to a row of tokens has to be.**

Main results:

* `Coffer.Filter.closes_of_readTokens` — what is read closes all groups;
* `Coffer.Filter.error_of_closes` — what is wrong if all groups are closed;
* `Coffer.Filter.isAnswer_ofTokens` — **the reader gives that answer, by stack and by descent.**
-/

import Coffer.Proofs.Except
import Coffer.Proofs.Filter.Descent

set_option autoImplicit false

namespace Coffer.Filter

/-! ### Parentheses -/

/-- Tokens that close `n` groups and every group that they open. -/
structure Closes (n : Nat) (ts : List Token) : Prop where
  /-- No group is closed that is not open. -/
  opened : ∀ pre, pre <+: ts → pre.count .rightParen ≤ n + pre.count .leftParen
  /-- In the end none is open. -/
  closed : ts.count .rightParen = n + ts.count .leftParen

/-- **Parentheses balance.** -/
abbrev Balanced (ts : List Token) : Prop := Closes 0 ts

namespace Closes

variable {n m : Nat} {t : Token} {ts : List Token}

theorem nil_iff : Closes n [] ↔ n = 0 := by
  constructor
  · intro h
    simpa using h.closed.symm
  · rintro rfl
    exact ⟨fun pre hpre => by simp [List.prefix_nil.1 hpre], rfl⟩

/-- A token opens a group, closes one or does neither; `m` groups are open behind it. -/
theorem cons_iff (h : n + [t].count .leftParen = m + [t].count .rightParen) :
    Closes n (t :: ts) ↔ Closes m ts := by
  have hcount (u : Token) (us : List Token) : (t :: us).count u = us.count u + [t].count u := by
    rw [← List.singleton_append, List.count_append, Nat.add_comm]
  have hopen := hcount .leftParen
  have hclose := hcount .rightParen
  constructor
  · rintro ⟨hopened, hclosed⟩
    refine ⟨fun pre hpre => ?_, ?_⟩
    · have := hopened (t :: pre) ((List.prefix_cons_inj t).2 hpre)
      rw [hopen pre, hclose pre] at this
      omega
    · rw [hopen ts, hclose ts] at hclosed
      omega
  · rintro ⟨hopened, hclosed⟩
    refine ⟨fun pre hpre => ?_, ?_⟩
    · rcases List.prefix_cons_iff.1 hpre with rfl | ⟨pre', rfl, hpre'⟩
      · simp
      · have := hopened pre' hpre'
        rw [hopen pre', hclose pre']
        omega
    · rw [hopen ts, hclose ts]
      omega

theorem leftParen_iff : Closes n (.leftParen :: ts) ↔ Closes (n + 1) ts :=
  cons_iff rfl

theorem rightParen_iff : Closes (n + 1) (.rightParen :: ts) ↔ Closes n ts :=
  cons_iff rfl

theorem not_rightParen : ¬ Closes 0 (.rightParen :: ts) := by
  intro h
  have := h.opened [.rightParen] ⟨ts, rfl⟩
  simp at this

end Closes

/-! ### Answers -/

variable {l : Level} {outer : List Level} {ts : List Token}

/-- **What is read closes all groups.** -/
theorem closes_of_readTokens {f : Filter} (h : readTokens l outer ts = .ok f) :
    Closes outer.length ts := by
  induction ts generalizing l outer with
  | nil =>
      rw [readTokens] at h
      split at h
      · cases h
      · split at h
        · next houter => simpa [Closes.nil_iff] using houter
        · cases h
  | cons t rest ih =>
      cases t with
      | word s => exact (Closes.cons_iff rfl).2 (ih h)
      | quoted s => exact (Closes.cons_iff rfl).2 (ih h)
      | leftParen => exact Closes.leftParen_iff.2 (ih h)
      | or =>
          rw [readTokens] at h
          split at h
          · cases h
          · exact (Closes.cons_iff rfl).2 (ih h)
      | field name value isQuoted =>
          rw [readTokens] at h
          split at h
          · exact (Closes.cons_iff rfl).2 (ih h)
          · cases h
      | rightParen =>
          cases outer with
          | nil =>
              rw [readTokens] at h
              split at h <;> cases h
          | cons below outer =>
              rw [readTokens] at h
              split at h
              · cases h
              · exact Closes.rightParen_iff.2 (ih h)

/-- Field terms that can be read. -/
def FieldsRead (ts : List Token) : Prop :=
  ∀ name value isQuoted, .field name value isQuoted ∈ ts →
    ∃ p, Predicate.read name value isQuoted = .ok p

theorem FieldsRead.tail {t : Token} (h : FieldsRead (t :: ts)) : FieldsRead ts :=
  fun name value isQuoted hmem => h name value isQuoted (List.mem_cons_of_mem t hmem)

theorem missingTerm_eq_or {e : FilterError} (he : e = .danglingOr ∨ e = .emptyGroup) :
    missingTerm l e = .danglingOr ∨ missingTerm l e = .emptyGroup := by
  unfold missingTerm
  split
  · exact he
  · exact .inl rfl

/-- **What is wrong if all groups are closed** and all field terms can be read. -/
theorem error_of_closes {e : FilterError} (hcloses : Closes outer.length ts)
    (hfields : FieldsRead ts) (h : readTokens l outer ts = .error e) :
    e = .danglingOr ∨ e = .emptyGroup := by
  induction ts generalizing l outer with
  | nil =>
      obtain rfl := List.length_eq_zero_iff.1 (Closes.nil_iff.1 hcloses)
      rw [readTokens] at h
      split at h
      · cases h
        exact missingTerm_eq_or (.inl rfl)
      · cases h
  | cons t rest ih =>
      cases t with
      | word s => exact ih ((Closes.cons_iff rfl).1 hcloses) hfields.tail h
      | quoted s => exact ih ((Closes.cons_iff rfl).1 hcloses) hfields.tail h
      | leftParen =>
          have hcloses : Closes (l :: outer).length rest := Closes.leftParen_iff.1 hcloses
          exact ih hcloses hfields.tail h
      | or =>
          rw [readTokens] at h
          split at h
          · cases h
            exact .inl rfl
          · exact ih ((Closes.cons_iff rfl).1 hcloses) hfields.tail h
      | field name value isQuoted =>
          obtain ⟨p, hp⟩ := hfields name value isQuoted (by simp)
          rw [readTokens, hp] at h
          exact ih ((Closes.cons_iff rfl).1 hcloses) hfields.tail h
      | rightParen =>
          cases outer with
          | nil => exact absurd hcloses Closes.not_rightParen
          | cons below outer =>
              rw [readTokens] at h
              split at h
              · cases h
                exact missingTerm_eq_or (.inr rfl)
              · exact ih (Closes.rightParen_iff.1 hcloses) hfields.tail h

/-- What the reader makes of a row with tokens. -/
theorem ofTokens_of_ne_nil (h : ts ≠ []) :
    ofTokens ts = (readTokens .empty [] ts).map some := by
  rw [ofTokens, if_neg (by simpa using h)]

theorem balanced_of_ofTokens {r : Option Filter} (h : ofTokens ts = .ok r) : Balanced ts := by
  by_cases hts : ts = []
  · rw [hts]
    exact Closes.nil_iff.2 rfl
  · rw [ofTokens_of_ne_nil hts] at h
    obtain ⟨f, hread, -⟩ := Except.of_map_eq_ok h
    exact closes_of_readTokens hread

theorem error_of_balanced {e : FilterError} (hbalanced : Balanced ts) (hfields : FieldsRead ts)
    (h : ofTokens ts = .error e) : e = .danglingOr ∨ e = .emptyGroup := by
  by_cases hts : ts = []
  · rw [hts] at h
    cases h
  · rw [ofTokens_of_ne_nil hts] at h
    cases hread : readTokens .empty [] ts with
    | ok f => rw [hread] at h; cases h
    | error e' =>
        rw [hread] at h
        cases h
        have hcloses : Closes ([] : List Level).length ts := hbalanced
        exact error_of_closes hcloses hfields hread

theorem ofTokens_eq_none_iff : ofTokens ts = .ok none ↔ ts = [] := by
  constructor
  · intro h
    by_contra hts
    rw [ofTokens_of_ne_nil hts] at h
    obtain ⟨f, -, heq⟩ := Except.of_map_eq_ok h
    cases heq
  · rintro rfl
    rfl

/-- Only what is derived is read. -/
theorem exists_derives_of_ofTokens {f : Filter} (h : ofTokens ts = .ok (some f)) :
    ∃ bs, Derives .expr ts bs := by
  rw [← Descent.ofTokens_eq] at h
  unfold Descent.ofTokens at h
  split at h
  · cases h
  · split at h
    · next g hnil hread =>
        obtain ⟨pre, bs, heq, hbs, -, -⟩ := hread ▸ Descent.readExpr_spec [] ts
        rw [List.append_nil] at heq
        exact ⟨bs, heq ▸ hbs⟩
    all_goals cases h

/-- **A filter is read exactly if the tokens are an expression,** and it is the normal form of their
tree. -/
theorem ofTokens_eq_some_iff {f : Filter} :
    ofTokens ts = .ok (some f) ↔ ∃ bs, Derives .expr ts bs ∧ f = flatten (.any bs) := by
  constructor
  · intro h
    obtain ⟨bs, hbs⟩ := exists_derives_of_ofTokens h
    rw [hbs.ofTokens_eq] at h
    cases h
    exact ⟨bs, hbs, rfl⟩
  · rintro ⟨bs, hbs, rfl⟩
    exact hbs.ofTokens_eq

/-- The leaves of a filter are the terms that it is read from. -/
theorem leaves_of_ofTokens {f : Filter} (h : ofTokens ts = .ok (some f)) :
    f.leaves = ts.filterMap leafOf? := by
  obtain ⟨bs, hbs, rfl⟩ := ofTokens_eq_some_iff.1 h
  rw [leaves_flatten, ← hbs.leaves_eq, leaves, leavesOf_eq]

/-- **What the answer to a row of tokens has to be.** -/
structure IsAnswer (ts : List Token) (r : Except FilterError (Option Filter)) : Prop where
  /-- No tokens are no filter, and nothing else is. -/
  nothing : r = .ok none ↔ ts = []
  /-- A filter is the normal form of a tree that the grammar gives to the tokens. -/
  filter : ∀ f, r = .ok (some f) ↔ ∃ bs, Derives .expr ts bs ∧ f = flatten (.any bs)
  /-- It gives them no other tree. -/
  unique : ∀ bs bs', Derives .expr ts bs → Derives .expr ts bs' → bs = bs'
  /-- No term is lost or comes twice, and the terms stay in order. -/
  leaves : ∀ f, r = .ok (some f) → f.leaves = ts.filterMap leafOf?
  /-- Parentheses that do not balance are refused. -/
  unbalanced : ¬ Balanced ts → ∃ e, r = .error e
  /-- Parentheses that balance are not complained about. -/
  balanced : Balanced ts → FieldsRead ts → ∀ e, r = .error e → e = .danglingOr ∨ e = .emptyGroup

/-- **The reader gives the answer that has to be given.**  So does the descent, and what an
expression leaves of the tokens, if it leaves any, is a closing parenthesis and what follows it. -/
theorem isAnswer_ofTokens (ts : List Token) :
    IsAnswer ts (ofTokens ts) ∧ Descent.ofTokens ts = ofTokens ts ∧
      ∀ f rest, Descent.readExpr [] ts = .ok (f, rest) →
        ∀ t, rest.1.head? = some t → t = .rightParen := by
  refine ⟨⟨ofTokens_eq_none_iff, fun f => ofTokens_eq_some_iff, fun bs bs' h h' => h.unique h',
    fun f => leaves_of_ofTokens, fun h => ?_, fun hbalanced hfields e => ?_⟩,
    Descent.ofTokens_eq ts, fun f rest hread t ht => ?_⟩
  · cases hread : ofTokens ts with
    | error e => exact ⟨e, rfl⟩
    | ok r => exact absurd (balanced_of_ofTokens hread) h
  · exact error_of_balanced hbalanced hfields
  · have hend := Descent.endsExpr_of_readExpr hread
    obtain ⟨tail, htail⟩ := List.head?_eq_some_iff.1 ht
    rw [htail] at hend
    exact endsExpr_cons_iff.1 hend

end Coffer.Filter
