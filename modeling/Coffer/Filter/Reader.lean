/-
**From tokens to filters.**

The grammar is

    expr := and ("OR" and)*
    and  := term+
    term := "(" expr ")" | field | word | quoted

and the tokens are read from left to right with a stack.  Every open parenthesis opens a *level*,
which holds the finished branches of an `OR` and the terms of the branch that is being read.  A
closing parenthesis makes the level into a filter, which becomes a term of the level below.

A filter never has a part of its own kind, and never a single part: parts of the same kind are
spliced in, and a single part stands for itself.

Main definitions:

* `Coffer.Filter.joinAll`, `Coffer.Filter.joinAny` — a filter of parts that are in normal form;
* `Coffer.Filter.Level` — what has been read of a group;
* `Coffer.Filter.readTokens`, `Coffer.Filter.ofTokens` — reading.
-/

import Coffer.Filter.Predicate
import Coffer.Filter.Token

set_option autoImplicit false

namespace Coffer.Filter

/-! ### Putting parts together -/

/-- The parts that a filter adds to a filter that asks for all: its own parts if it asks for all,
else itself. -/
def spliceAll : Filter → List Filter
  | .all parts => parts
  | f => [f]

/-- The parts that a filter adds to a filter that asks for any: its own parts if it asks for any,
else itself. -/
def spliceAny : Filter → List Filter
  | .any parts => parts
  | f => [f]

/-- All of the parts; a single part stands for itself. -/
def joinAll : List Filter → Filter
  | [f] => f
  | fs => .all fs

/-- Any of the parts; a single part stands for itself. -/
def joinAny : List Filter → Filter
  | [f] => f
  | fs => .any fs

@[simp] theorem joinAll_singleton (f : Filter) : joinAll [f] = f := rfl
@[simp] theorem joinAny_singleton (f : Filter) : joinAny [f] = f := rfl

/-! ### Levels -/

/-- What has been read of a group: the finished branches of an `OR`, and the terms of the branch
that is being read. -/
structure Level where
  branches : List Filter
  terms : List Filter

namespace Level

/-- Nothing has been read. -/
def empty : Level := ⟨[], []⟩

/-- Adds a term to the branch that is being read. -/
def push (l : Level) (f : Filter) : Level := { l with terms := l.terms ++ spliceAll f }

/-- The branches, with the one that is being read. -/
def closed (l : Level) : List Filter := l.branches ++ spliceAny (joinAll l.terms)

/-- Starts another branch. -/
def next (l : Level) : Level := ⟨l.closed, []⟩

/-- The filter that has been read. -/
def result (l : Level) : Filter := joinAny l.closed

end Level

/-! ### Reading -/

/-- What is wrong with a level that has no terms where one is needed, at a token that cannot start
one: behind an `OR` the `OR` dangles, and a group that has just been opened is empty. -/
def missingTerm (l : Level) (inEmptyGroup : FilterError) : FilterError :=
  if l.branches.isEmpty then inEmptyGroup else .danglingOr

/-- Reads tokens on from a level and the levels around it. -/
def readTokens (l : Level) (outer : List Level) : List Token → Except FilterError Filter
  | [] =>
    if l.terms.isEmpty then
      .error (missingTerm l (if outer.isEmpty then .danglingOr else .unbalancedParens))
    else if outer.isEmpty then .ok l.result
    else .error .unbalancedParens
  | .or :: rest =>
    if l.terms.isEmpty then .error .danglingOr
    else readTokens l.next outer rest
  | .leftParen :: rest => readTokens Level.empty (l :: outer) rest
  | .rightParen :: rest =>
    if l.terms.isEmpty then
      .error (missingTerm l (if outer.isEmpty then .unbalancedParens else .emptyGroup))
    else
      match outer with
      | [] => .error .unbalancedParens
      -- the group is a term like any other, and is spliced if it is of the kind of the branch
      | below :: outer => readTokens (below.push l.result) outer rest
  | .word s :: rest => readTokens (l.push (ofText s)) outer rest
  | .quoted s :: rest => readTokens (l.push (ofText s)) outer rest
  | .field name value isQuoted :: rest =>
    match Predicate.read name value isQuoted with
    | .ok p => readTokens (l.push (.field p)) outer rest
    | .error e => .error e

/-- **The filter of a row of tokens;** no tokens are no filter. -/
def ofTokens (ts : List Token) : Except FilterError (Option Filter) :=
  if ts.isEmpty then .ok none else (readTokens .empty [] ts).map some

end Coffer.Filter
