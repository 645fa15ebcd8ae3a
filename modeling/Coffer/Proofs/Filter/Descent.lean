/-
**Reading filters by descent.**

The grammar can also be followed with a function for each of its phrases, which reads its phrase at
the front of the tokens and hands on the tokens that are left.  Each of them looks at one token to
see how to go on, and knows of the tokens around it only where it was called from; the reader keeps
a stack instead.  Both give the same answer to every row of tokens, filters and errors alike.

An expression that has been read ends where the tokens end, or at a closing parenthesis.  So behind
a whole filter nothing else can be left over, and of what the last function is prepared for, one
case never arises.

Main definitions: `Coffer.Filter.Descent.readTerm`, `Coffer.Filter.Descent.readBranch`,
`Coffer.Filter.Descent.readExpr`, `Coffer.Filter.Descent.ofTokens`.

Main results:

* `Coffer.Filter.Descent.readExpr_spec` — what a descent reads is derived, and where it fails the
  reader fails;
* `Coffer.Filter.Descent.endsExpr_of_readExpr` — **what is left is nothing, or starts with a closing
  parenthesis;**
* `Coffer.Filter.Descent.ofTokens_eq` — **the descent and the reader agree.**
-/

import Coffer.Proofs.Filter.Grammar

set_option autoImplicit false

namespace Coffer.Filter.Descent

/-! ### Reading -/

/-- Tokens that are left when some have been read. -/
abbrev Rest (ts : List Token) := { rest : List Token // rest.length ≤ ts.length }

/-- Tokens that are left when at least one has been read. -/
abbrev ShorterRest (ts : List Token) := { rest : List Token // rest.length < ts.length }

mutual

/-- Reads a term. -/
def readTerm (ts : List Token) : Except FilterError (Filter × ShorterRest ts) :=
  match ts with
  | .word s :: rest => .ok (ofText s, ⟨rest, by simp⟩)
  | .quoted s :: rest => .ok (ofText s, ⟨rest, by simp⟩)
  | .field name value isQuoted :: rest =>
    match Predicate.read name value isQuoted with
    | .ok p => .ok (.field p, ⟨rest, by simp⟩)
    | .error e => .error e
  | .leftParen :: .rightParen :: _ => .error .emptyGroup
  | .leftParen :: [] => .error .unbalancedParens
  | .leftParen :: t :: tail =>
    match readExpr [] (t :: tail) with
    | .ok (f, ⟨.rightParen :: rest, h⟩) =>
      .ok (f, ⟨rest, by simp only [List.length_cons] at h ⊢; omega⟩)
    | .ok _ => .error .unbalancedParens
    | .error e => .error e
  | .rightParen :: _ => .error .unbalancedParens
  | .or :: _ | [] => .error .danglingOr
termination_by (ts.length, 0)

/-- Reads the terms of a branch behind those that have been read. -/
def readBranch (terms : List Filter) (ts : List Token) : Except FilterError (Filter × Rest ts) :=
  if startsTerm ts then
    match readTerm ts with
    | .ok (f, ⟨rest, h⟩) =>
      match readBranch (terms ++ spliceAll f) rest with
      | .ok (g, ⟨rest', h'⟩) => .ok (g, ⟨rest', by omega⟩)
      | .error e => .error e
    | .error e => .error e
  else if terms.isEmpty then
    match ts with
    | .rightParen :: _ => .error .unbalancedParens
    | _ => .error .danglingOr
  else .ok (joinAll terms, ⟨ts, Nat.le_refl _⟩)
termination_by (ts.length, 1)

/-- Reads the branches of an expression behind those that have been read. -/
def readExpr (branches : List Filter) (ts : List Token) : Except FilterError (Filter × Rest ts) :=
  match readBranch [] ts with
  | .ok (f, ⟨.or :: rest, h⟩) =>
    if startsTerm rest then
      match readExpr (branches ++ spliceAny f) rest with
      | .ok (g, ⟨rest', h'⟩) =>
        .ok (g, ⟨rest', by simp only [List.length_cons] at h; omega⟩)
      | .error e => .error e
    else .error .danglingOr
  | .ok (f, rest) => .ok (joinAny (branches ++ spliceAny f), rest)
  | .error e => .error e
termination_by (ts.length, 2)

end

/-- **Reads a whole row of tokens by descent;** no tokens are no filter. -/
def ofTokens (ts : List Token) : Except FilterError (Option Filter) :=
  if ts.isEmpty then .ok none
  else
    match readExpr [] ts with
    | .ok (f, ⟨[], _⟩) => .ok (some f)
    | .ok (_, ⟨.rightParen :: _, _⟩) => .error .unbalancedParens
    | .ok _ => .error .danglingOr
    | .error e => .error e

/-! ### What each function does -/

/-- What reading a term comes to: a term is derived, or the reader fails in the same way. -/
def TermSpec (ts : List Token) : Except FilterError (Filter × ShorterRest ts) → Prop
  | .ok (f, rest) => ∃ pre fs, ts = pre ++ rest ∧ Derives .term pre fs ∧
      spliceAll f = flattenParts .all fs
  | .error e => startsTerm ts = true → ∀ l outer, readTokens l outer ts = .error e

/-- What reading on in a branch comes to: all terms up to its end are derived, or the reader fails
in the same way. -/
def BranchSpec (terms : List Filter) (ts : List Token) :
    Except FilterError (Filter × Rest ts) → Prop
  | .ok (f, rest) => ∃ pre fs, ts = pre ++ rest ∧
      (Derives .branch pre fs ∨ pre = [] ∧ fs = [] ∧ terms ≠ []) ∧
      f = joinAll (terms ++ flattenParts .all fs) ∧ startsTerm rest = false
  | .error e => ∀ bs outer, (terms = [] → endsExpr ts = true → bs = [] ∧ outer = []) →
      readTokens ⟨bs, terms⟩ outer ts = .error e

/-- What reading on in an expression comes to: all branches up to its end are derived, or the reader
fails in the same way. -/
def ExprSpec (bs : List Filter) (ts : List Token) : Except FilterError (Filter × Rest ts) → Prop
  | .ok (f, rest) => ∃ pre gs, ts = pre ++ rest ∧ Derives .expr pre gs ∧
      f = joinAny (bs ++ flattenParts .any gs) ∧ endsExpr rest = true
  | .error e => ∀ outer, (endsExpr ts = true → bs = [] ∧ outer = []) →
      readTokens ⟨bs, []⟩ outer ts = .error e

variable {ts : List Token}

/-- The reader behind an expression: its last branch has terms and can be closed. -/
theorem exists_level_of_expr {pre : List Token} {gs : List Filter} (h : Derives .expr pre gs)
    (bs : List Filter) (outer : List Level) : ∃ l : Level, l.terms.isEmpty = false ∧
      l.closed = bs ++ flattenParts .any gs ∧
      ∀ rest, readTokens ⟨bs, []⟩ outer (pre ++ rest) = readTokens l outer rest := by
  obtain ⟨l, hterms, hclosed, hl⟩ := h.reads bs outer
  exact ⟨l, by simpa using hterms, hclosed, hl⟩

/-- An expression in parentheses is a term, unless its closing parenthesis is missing. -/
theorem readTerm_parens_spec {t : Token} {tail : List Token} (ht : t ≠ .rightParen)
    (hexpr : ExprSpec [] (t :: tail) (readExpr [] (t :: tail))) :
    TermSpec (.leftParen :: t :: tail) (readTerm (.leftParen :: t :: tail)) := by
  rw [readTerm]
  case x => exact ht
  cases hread : readExpr [] (t :: tail) with
  | error e =>
      rw [hread] at hexpr
      exact fun _ l outer => hexpr (l :: outer) fun hend => absurd (endsExpr_cons_iff.1 hend) ht
  | ok r =>
      rw [hread] at hexpr
      obtain ⟨f, rest, hlength⟩ := r
      obtain ⟨pre, gs, heq, hgs, rfl, hend⟩ := hexpr
      cases rest with
      | nil =>
          intro _ l outer
          obtain ⟨l', hterms, -, hl'⟩ := exists_level_of_expr hgs [] (l :: outer)
          rw [readTokens, Level.empty, heq, hl', readTokens, hterms]
          rfl
      | cons u rest =>
          obtain rfl := endsExpr_cons_iff.1 hend
          refine ⟨.leftParen :: (pre ++ [.rightParen]), _, ?_, .parens hgs, ?_⟩
          · simp [heq]
          · exact (flattenParts_all_any gs).symm

theorem readTerm_spec (ih : ∀ us : List Token, us.length < ts.length →
    ExprSpec [] us (readExpr [] us)) : TermSpec ts (readTerm ts) := by
  cases ts with
  | nil =>
      rw [readTerm]
      intro hstarts
      cases hstarts
  | cons t rest =>
      cases t with
      | word s =>
          rw [readTerm]
          exact ⟨[.word s], _, rfl, .word s, rfl⟩
      | quoted s =>
          rw [readTerm]
          exact ⟨[.quoted s], _, rfl, .quoted s, rfl⟩
      | field name value isQuoted =>
          rw [readTerm]
          cases hp : Predicate.read name value isQuoted with
          | ok p => exact ⟨[.field name value isQuoted], _, rfl, .field hp, rfl⟩
          | error e =>
              intro _ l outer
              rw [readTokens, hp]
      | or =>
          rw [readTerm]
          intro hstarts
          cases hstarts
      | rightParen =>
          rw [readTerm]
          intro hstarts
          cases hstarts
      | leftParen =>
          cases rest with
          | nil =>
              rw [readTerm]
              exact fun _ l outer => rfl
          | cons t tail =>
              by_cases ht : t = .rightParen
              · subst ht
                rw [readTerm]
                exact fun _ l outer => rfl
              · exact readTerm_parens_spec ht (ih (t :: tail) (by simp))

/-! ### Branches -/

section

variable {terms : List Filter} {pre rest : List Token} {fs : List Filter} {f : Filter}

/-- A term and the terms behind it are a branch. -/
theorem branchSpec_ok_more (heq : ts = pre ++ rest) (hfs : Derives .term pre fs)
    (hparts : spliceAll f = flattenParts .all fs) {g : Filter} {rest' : List Token}
    {hlength : rest'.length ≤ rest.length} (hlength' : rest'.length ≤ ts.length)
    (hmore : BranchSpec (terms ++ spliceAll f) rest (.ok (g, ⟨rest', hlength⟩))) :
    BranchSpec terms ts (.ok (g, ⟨rest', hlength'⟩)) := by
  obtain ⟨pre', fs', heq', hfs', rfl, hend⟩ := hmore
  refine ⟨pre ++ pre', fs ++ fs', ?_, .inl ?_, ?_, hend⟩
  · calc ts = pre ++ rest := heq
      _ = pre ++ (pre' ++ rest') := congrArg (pre ++ ·) heq'
      _ = pre ++ pre' ++ rest' := (List.append_assoc pre pre' rest').symm
  · rcases hfs' with hfs' | ⟨rfl, rfl, -⟩
    · exact .more hfs hfs'
    · rw [List.append_nil, List.append_nil]
      exact .single hfs
  · rw [hparts, flattenParts_append, List.append_assoc]

/-- A failure behind a term is the failure of the reader, which has read the term by then. -/
theorem branchSpec_error_more (heq : ts = pre ++ rest) (hfs : Derives .term pre fs)
    (hparts : spliceAll f = flattenParts .all fs) {e : FilterError}
    (hmore : BranchSpec (terms ++ spliceAll f) rest (.error e)) :
    BranchSpec terms ts (.error e) := by
  have hterms : terms ++ spliceAll f ≠ [] := by
    rw [hparts]
    exact List.append_ne_nil_of_right_ne_nil _ (hfs.flattenParts_ne_nil .all)
  intro bs outer _
  rw [heq, hfs.reads ⟨bs, terms⟩ outer rest, ← hparts]
  exact hmore bs outer fun hnil => absurd hnil hterms

end

/-- Where no term starts a branch ends, and it must have a term by then. -/
theorem readBranch_end_spec (terms : List Filter) (hstarts : startsTerm ts = false) :
    BranchSpec terms ts (readBranch terms ts) := by
  unfold readBranch
  rw [if_neg (by simp [hstarts])]
  cases terms with
  | cons f fs => exact ⟨[], [], rfl, .inr ⟨rfl, rfl, by simp⟩, by simp [flattenParts], hstarts⟩
  | nil =>
    cases ts with
    | nil =>
        intro bs outer h
        obtain ⟨rfl, rfl⟩ := h rfl rfl
        rfl
    | cons t rest =>
        cases t with
        | rightParen =>
            intro bs outer h
            obtain ⟨rfl, rfl⟩ := h rfl rfl
            rfl
        | or => exact fun bs outer _ => rfl
        | _ => cases hstarts

/-- Terms are read one after another; the branch ends where no term starts. -/
theorem readBranch_spec (terms : List Filter) (ts : List Token)
    (hexpr : ∀ us : List Token, us.length < ts.length → ExprSpec [] us (readExpr [] us)) :
    BranchSpec terms ts (readBranch terms ts) := by
  induction hn : ts.length using Nat.strong_induction_on generalizing terms ts with
  | _ n ih =>
  subst hn
  by_cases hstarts : startsTerm ts = true
  · unfold readBranch
    rw [if_pos hstarts]
    have hterm := readTerm_spec hexpr
    cases hread : readTerm ts with
    | error e =>
        rw [hread] at hterm
        exact fun bs outer _ => hterm hstarts _ outer
    | ok r =>
        rw [hread] at hterm
        obtain ⟨f, rest, hlength⟩ := r
        obtain ⟨pre, fs, heq, hfs, hparts⟩ := hterm
        have hmore := ih rest.length hlength (terms ++ spliceAll f) rest
          (fun us hus => hexpr us (Nat.lt_trans hus hlength)) rfl
        dsimp only
        cases hread' : readBranch (terms ++ spliceAll f) rest with
        | error e => exact branchSpec_error_more heq hfs hparts (hread' ▸ hmore)
        | ok r => exact branchSpec_ok_more heq hfs hparts _ (hread' ▸ hmore)
  · exact readBranch_end_spec terms (by simpa using hstarts)

/-! ### Expressions -/

/-- The reader behind the `OR` that follows an expression. -/
theorem readTokens_of_expr_or {pre rest : List Token} {gs : List Filter} (h : Derives .expr pre gs)
    (bs : List Filter) (outer : List Level) :
    readTokens ⟨bs, []⟩ outer (pre ++ .or :: rest) =
      readTokens ⟨bs ++ flattenParts .any gs, []⟩ outer rest := by
  obtain ⟨l, hterms, hclosed, hl⟩ := exists_level_of_expr h bs outer
  rw [hl, readTokens, hterms, Level.next, hclosed]
  rfl

/-- Behind an `OR` the reader wants a term. -/
theorem readTokens_of_danglingOr {bs : List Filter} (hbs : bs ≠ []) {rest : List Token}
    (h : startsTerm rest = false) (outer : List Level) :
    readTokens ⟨bs, []⟩ outer rest = .error .danglingOr := by
  have hempty : bs.isEmpty = false := by simpa using hbs
  unfold startsTerm at h
  split at h
  · simp [readTokens, missingTerm, hempty]
  · simp [readTokens]
  · simp [readTokens, missingTerm, hempty]
  · cases h

section

variable {bs : List Filter} {pre rest : List Token} {fs : List Filter}

/-- A branch, an `OR` and the branches behind it are an expression. -/
theorem exprSpec_ok_or (heq : ts = pre ++ .or :: rest) (hbranch : Derives .branch pre fs)
    {g : Filter} {rest' : List Token} {hlength : rest'.length ≤ rest.length}
    (hlength' : rest'.length ≤ ts.length)
    (hmore : ExprSpec (bs ++ flattenParts .any [.all fs]) rest (.ok (g, ⟨rest', hlength⟩))) :
    ExprSpec bs ts (.ok (g, ⟨rest', hlength'⟩)) := by
  obtain ⟨pre', gs, heq', hgs, rfl, hend⟩ := hmore
  refine ⟨pre ++ .or :: pre', .all fs :: gs, ?_, .or hbranch hgs, ?_, hend⟩
  · calc ts = pre ++ .or :: rest := heq
      _ = pre ++ .or :: (pre' ++ rest') := congrArg (pre ++ .or :: ·) heq'
      _ = pre ++ .or :: pre' ++ rest' := (List.append_assoc pre (.or :: pre') rest').symm
  · rw [List.append_assoc, ← flattenParts_append]
    rfl

/-- A failure behind an `OR` is the failure of the reader. -/
theorem exprSpec_error_or (heq : ts = pre ++ .or :: rest) (hbranch : Derives .branch pre fs)
    (hstarts : startsTerm rest = true) {e : FilterError}
    (hmore : ExprSpec (bs ++ flattenParts .any [.all fs]) rest (.error e)) :
    ExprSpec bs ts (.error e) := by
  intro outer _
  rw [heq, readTokens_of_expr_or (.alone hbranch)]
  refine hmore outer fun hends => ?_
  rw [startsTerm_of_endsExpr hends] at hstarts
  cases hstarts

theorem exprSpec_danglingOr (heq : ts = pre ++ .or :: rest) (hbranch : Derives .branch pre fs)
    (hstarts : startsTerm rest = false) : ExprSpec bs ts (.error .danglingOr) := by
  intro outer _
  rw [heq, readTokens_of_expr_or (.alone hbranch)]
  refine readTokens_of_danglingOr ?_ hstarts outer
  exact List.append_ne_nil_of_right_ne_nil _ ((Derives.alone hbranch).flattenParts_ne_nil .any)

end

/-- **What a descent reads is derived, and where it fails the reader fails.** -/
theorem readExpr_spec (bs : List Filter) (ts : List Token) : ExprSpec bs ts (readExpr bs ts) := by
  induction hn : ts.length using Nat.strong_induction_on generalizing bs ts with
  | _ n ih =>
  subst hn
  have hbranch := readBranch_spec [] ts fun us hus => ih us.length hus [] us rfl
  unfold readExpr
  cases hread : readBranch [] ts with
  | error e =>
      rw [hread] at hbranch
      exact fun outer hend => hbranch bs outer fun _ => hend
  | ok r =>
      rw [hread] at hbranch
      obtain ⟨f, rest, hlength⟩ := r
      obtain ⟨pre, fs, heq, hfs, hf, hend⟩ := hbranch
      have hbranch : Derives .branch pre fs := hfs.resolve_right fun h => h.2.2 rfl
      have hparts : spliceAny f = flattenParts .any [.all fs] := by
        rw [flattenParts_any_all, hf, List.nil_append]
      have hdone : joinAny (bs ++ spliceAny f) = joinAny (bs ++ flattenParts .any [.all fs]) := by
        rw [hparts]
      cases rest with
      | nil => exact ⟨pre, [.all fs], heq, .alone hbranch, hdone, rfl⟩
      | cons t rest =>
          cases t with
          | rightParen => exact ⟨pre, [.all fs], heq, .alone hbranch, hdone, rfl⟩
          | or =>
              by_cases hstarts : startsTerm rest = true
              · have hmore := ih rest.length hlength (bs ++ flattenParts .any [.all fs]) rest rfl
                dsimp only
                rw [if_pos hstarts, hparts]
                cases hread' : readExpr (bs ++ flattenParts .any [.all fs]) rest with
                | error e => exact exprSpec_error_or heq hbranch hstarts (hread' ▸ hmore)
                | ok r => exact exprSpec_ok_or heq hbranch _ (hread' ▸ hmore)
              · dsimp only
                rw [if_neg hstarts]
                exact exprSpec_danglingOr heq hbranch (by simpa using hstarts)
          | _ => cases hend

/-! ### Whole rows of tokens -/

/-- **What is left behind an expression is nothing, or starts with a closing parenthesis.** -/
theorem endsExpr_of_readExpr {bs : List Filter} {f : Filter} {rest : Rest ts}
    (h : readExpr bs ts = .ok (f, rest)) : endsExpr rest = true := by
  obtain ⟨pre, gs, -, -, -, hend⟩ := h ▸ readExpr_spec bs ts
  exact hend

/-- **The descent and the reader agree,** on filters and on errors. -/
theorem ofTokens_eq (ts : List Token) : ofTokens ts = Filter.ofTokens ts := by
  unfold ofTokens Filter.ofTokens
  by_cases hts : ts.isEmpty = true
  · rw [if_pos hts, if_pos hts]
  · rw [if_neg hts, if_neg hts]
    have hexpr := readExpr_spec [] ts
    cases hread : readExpr [] ts with
    | error e =>
        rw [hread] at hexpr
        have herror := hexpr [] fun _ => ⟨rfl, rfl⟩
        rw [Level.empty, herror]
        rfl
    | ok r =>
        rw [hread] at hexpr
        obtain ⟨f, rest, hlength⟩ := r
        obtain ⟨pre, gs, heq, hgs, rfl, hend⟩ := hexpr
        obtain ⟨l, hterms, hclosed, hl⟩ := exists_level_of_expr hgs [] []
        have hreads : readTokens .empty [] ts = readTokens l [] rest := by
          rw [Level.empty, heq, hl]
        rw [hreads]
        cases rest with
        | nil =>
            rw [readTokens, hterms, Level.result, hclosed]
            rfl
        | cons t rest =>
            obtain rfl := endsExpr_cons_iff.1 hend
            rw [readTokens, hterms]
            rfl

end Coffer.Filter.Descent
