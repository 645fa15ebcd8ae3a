/-
**Rules applied one after another.**

A plan can also be made in one pass over the rules: every rule in turn writes its category and its
tags to the transactions that it selects, over what earlier rules have written, and in the end each
transaction is compared with what it was.  Since no rule looks at what is written, the pass comes to
the same plan.

Main definitions:

* `Coffer.Rules.Working` — what a transaction is left with in the course of the pass;
* `Coffer.Rules.Problem.passRule`, `Coffer.Rules.Problem.pass` — the pass;
* `Coffer.Rules.Problem.passed` — the plan that it comes to.

Main results:

* `Coffer.Rules.Working.write_after` — what one rule does to what earlier rules have left;
* `Coffer.Rules.Problem.pass_eq` — the invariant of the pass;
* `Coffer.Rules.Problem.plan_eq_passed` — the pass comes to the plan;
* `Coffer.Rules.Problem.isPlan_plan` — **what is planned, in this way or that, says what a plan has
  to say.**
-/

import Coffer.Proofs.Rules.PlanSpec

set_option autoImplicit false

namespace Coffer.Rules

/-- What a transaction is left with in the course of the pass. -/
structure Working where
  category : Option Int
  addedTags : List Int
  deriving DecidableEq

namespace Working

variable {t : Transaction} {tags : List Tag}

/-- Nothing has been written to a transaction. -/
def start (t : Transaction) : Working := ⟨t.category, []⟩

/-- A rule writes its category, if it sets one, and the tags that are not carried. -/
def write (tags : List Tag) (w : Working) (r : Rule) : Working where
  category := r.setCategory.or w.category
  addedTags := (r.addTags.filter fun i => !(tags.map Tag.id).contains i).foldl
    (fun acc i => insertId i acc) w.addedTags

/-- What is different from the transaction as it was. -/
def mutation? (t : Transaction) (w : Working) : Option Mutation :=
  let category := match w.category with
    | some c => if w.category = t.category then none else some ⟨t.category, c⟩
    | none => none
  if category.isNone && w.addedTags.isEmpty then none else some ⟨t.id, category, w.addedTags⟩

/-- What a transaction is left with after some rules. -/
def after (t : Transaction) (tags : List Tag) (rules : List Rule) : Working :=
  ⟨(lastCategory rules).or t.category, Rules.addedTags tags rules⟩

/-- **One rule more writes over what the earlier ones have left.** -/
theorem write_after (rules : List Rule) (r : Rule) :
    (after t tags rules).write tags r = after t tags (rules ++ [r]) := by
  simp only [write, after, lastCategory_append, Option.or_assoc, Rules.addedTags, ascending,
    List.flatMap_append, List.filter_append, List.foldl_append, List.flatMap_singleton]

/-- What is different in the end is the mutation of the plan. -/
theorem mutation?_after (rules : List Rule) :
    mutation? t (after t tags rules) = Rules.mutation? t tags rules := by
  have hcategory : (match (after t tags rules).category with
      | some c => if (after t tags rules).category = t.category then none else some ⟨t.category, c⟩
      | none => none) = categoryChange? t rules := by
    unfold after categoryChange?
    cases lastCategory rules with
    | none => cases h : t.category <;> simp
    | some c => simp [eq_comm]
  rw [mutation?, hcategory]
  rfl

end Working

namespace Problem

variable {P : Problem}

/-- One rule writes to the transactions that it selects. -/
def passRule (P : Problem) (b : Bound) (ws : List (Transaction × Working)) :
    List (Transaction × Working) :=
  ws.map fun e =>
    if b.filter.selects (P.view e.1) then (e.1, e.2.write (P.tagMap.tagsOf e.1.id) b.rule) else e

/-- The line of a rule: how many of the transactions it selects. -/
def countRule (P : Problem) (b : Bound) (ws : List (Transaction × Working)) : RuleCount :=
  ⟨b.rule.id, b.rule.name, ws.countP fun e => b.filter.selects (P.view e.1)⟩

/-- **The pass:** what the transactions are left with, and the lines of the rules. -/
def pass (P : Problem) (bs : List Bound) (ws : List (Transaction × Working)) :
    List (Transaction × Working) × List RuleCount :=
  bs.foldl (fun r b => (P.passRule b r.1, r.2 ++ [P.countRule b r.1])) (ws, [])

theorem passRule_after (bs : List Bound) (b : Bound) (ts : List Transaction) :
    P.passRule b (ts.map fun t => (t, .after t (P.tagMap.tagsOf t.id) (P.selecting bs t))) =
      ts.map fun t => (t, .after t (P.tagMap.tagsOf t.id) (P.selecting (bs ++ [b]) t)) := by
  rw [passRule, List.map_map]
  refine List.map_congr_left fun t _ => ?_
  simp only [Function.comp_apply, selecting, List.filter_append, List.map_append]
  by_cases h : b.filter.selects (P.view t) = true
  · simp [h, Working.write_after]
  · simp [h]

/-- **The invariant of the pass:** after some rules, every transaction is left with what those that
select it have written, and every rule has counted the transactions as they are. -/
theorem pass_eq (bs : List Bound) (ts : List Transaction) :
    P.pass bs (ts.map fun t => (t, .start t)) =
      (ts.map fun t => (t, .after t (P.tagMap.tagsOf t.id) (P.selecting bs t)),
        bs.map fun b =>
          ⟨b.rule.id, b.rule.name, ts.countP fun t => b.filter.selects (P.view t)⟩) := by
  induction bs using List.reverseRecOn with
  | nil => rfl
  | append_singleton bs b ih =>
      have hpass : P.pass (bs ++ [b]) (ts.map fun t => (t, .start t)) =
          (P.passRule b (P.pass bs (ts.map fun t => (t, .start t))).1,
            (P.pass bs (ts.map fun t => (t, .start t))).2 ++
              [P.countRule b (P.pass bs (ts.map fun t => (t, .start t))).1]) := by
        rw [pass, List.foldl_append]
        rfl
      rw [hpass, ih, passRule_after, countRule, List.countP_map, List.map_append]
      rfl

/-- The plan that the pass comes to. -/
def passed (P : Problem) : RulePlan :=
  let done := P.pass P.bound ((P.transactions.filter P.scope.holds).map fun t => (t, .start t))
  ⟨done.1.filterMap fun e => e.2.mutation? e.1, done.2,
    failures P.savedFilters (enabledInOrder P.rules)⟩

/-- **The pass comes to the plan.** -/
theorem plan_eq_passed (P : Problem) : P.plan = P.passed := by
  unfold passed
  dsimp only
  rw [pass_eq, List.filterMap_map]
  refine congrArg (fun ms => RulePlan.mk ms _ _) (List.filterMap_congr fun t _ => ?_)
  rw [Function.comp_apply, Working.mutation?_after]
  rfl

/-! ### The specification -/

/-- **What is planned says what a plan has to say,** also if it is made in one pass. -/
theorem isPlan_plan (hrules : (P.rules.map (·.id)).Nodup)
    (htransactions : (P.transactions.map (·.id)).Nodup) :
    P.IsPlan P.plan ∧ P.IsPlan P.passed := by
  have hplan : P.IsPlan P.plan :=
    { listed := listed_plan
      counts := counts_plan hrules
      failures := failures_plan hrules
      ordered := ordered_plan P
      changes := fun t ht => changes_plan hrules htransactions ht
      mutations := fun t ht m hm hid => mutations_plan hrules htransactions ht hm hid }
  refine ⟨hplan, ?_⟩
  rwa [← plan_eq_passed]

/-- Two rules write the category of the same transaction, and a third has no filter. -/
def twoRules : Problem where
  catalog := ⟨.empty, .empty, .empty⟩
  tagMap := .empty
  savedFilters := .ofRecords SavedFilter.id [⟨1, "Coffee", "coffee"⟩]
  scope := .all
  transactions := [⟨⟨none, ⟨2024, 3, 2, by decide⟩, none, "COFFEE", 0, some 7⟩, 1⟩]
  rules := [⟨⟨"back", 1, some 7, [], 1⟩, 1, true⟩, ⟨⟨"coffee", 1, some 8, [5], 0⟩, 2, true⟩,
    ⟨⟨"gone", 9, none, [], 2⟩, 3, true⟩]

/-- The later rule sets the category that the transaction has, so that only the tag is new. -/
theorem isPlan_twoRules :
    twoRules.passed =
      ⟨[⟨1, none, [5]⟩], [⟨2, "coffee", 1⟩, ⟨1, "back", 1⟩], [⟨3, "gone", .noFilter 9⟩]⟩ ∧
    twoRules.IsPlan
      ⟨[⟨1, none, [5]⟩], [⟨2, "coffee", 1⟩, ⟨1, "back", 1⟩], [⟨3, "gone", .noFilter 9⟩]⟩ := by
  have hplan : twoRules.plan =
      ⟨[⟨1, none, [5]⟩], [⟨2, "coffee", 1⟩, ⟨1, "back", 1⟩], [⟨3, "gone", .noFilter 9⟩]⟩ := by
    have horder : enabledInOrder twoRules.rules = [⟨⟨"coffee", 1, some 8, [5], 0⟩, 2, true⟩,
        ⟨⟨"back", 1, some 7, [], 1⟩, 1, true⟩, ⟨⟨"gone", 9, none, [], 2⟩, 3, true⟩] := by
      simp [enabledInOrder, twoRules, List.mergeSort, applicationLe]
    rw [plan, Rules.plan, horder]
    decide +kernel
  obtain ⟨hspec, -⟩ := isPlan_plan (P := twoRules) (by decide) (by decide)
  rw [hplan] at hspec
  exact ⟨(plan_eq_passed twoRules).symm.trans hplan, hspec⟩

end Problem

end Coffer.Rules
