/-
**The order in which rules apply.**

Of two rules with different ids one applies before the other, so the enabled rules have exactly one
order.  What some rules write is settled by that order for the category, where the last rule counts,
and does not depend on it for the tags.

Main definitions: `Coffer.Rules.Before` — one rule applies before another.

Main results:

* `Coffer.Rules.pairwise_enabledInOrder` — the enabled rules are put in their order;
* `Coffer.Rules.lastCategory_eq_some_iff` — **the last rule that sets a category sets it;**
* `Coffer.Rules.mem_addedTags_iff` — the tags that are added.
-/

import Coffer.Rules.Plan
import Mathlib.Data.List.Induction
import Mathlib.Data.List.Nodup

set_option autoImplicit false

namespace Coffer.Rules

/-! ### The order -/

/-- **One rule applies before another:** by its place, then by its id. -/
def Before (a b : Rule) : Prop :=
  a.sortOrder < b.sortOrder ∨ a.sortOrder = b.sortOrder ∧ a.id < b.id

theorem Before.irrefl (a : Rule) : ¬ Before a a := by
  unfold Before
  omega

theorem Before.trans {a b c : Rule} (h : Before a b) (h' : Before b c) : Before a c := by
  unfold Before at *
  omega

theorem Before.asymm {a b : Rule} (h : Before a b) : ¬ Before b a :=
  fun h' => Before.irrefl a (h.trans h')

theorem applicationLe_iff {a b : Rule} :
    applicationLe a b = true ↔
      a.sortOrder < b.sortOrder ∨ a.sortOrder = b.sortOrder ∧ a.id ≤ b.id := by
  simp [applicationLe]

theorem before_of_applicationLe {a b : Rule} (h : applicationLe a b = true) (hne : a.id ≠ b.id) :
    Before a b := by
  rw [applicationLe_iff] at h
  unfold Before
  omega

/-- Rules in order, of which no two have the same id. -/
theorem pairwise_mergeSort {rules : List Rule} (h : (rules.map (·.id)).Nodup) :
    (rules.mergeSort applicationLe).Pairwise Before := by
  have hsorted : (rules.mergeSort applicationLe).Pairwise (applicationLe · ·) := by
    refine List.pairwise_mergeSort (fun a b c => ?_) (fun a b => ?_) rules
    · simp only [applicationLe_iff]
      omega
    · simp only [Bool.or_eq_true, applicationLe_iff]
      omega
  have hids : (rules.mergeSort applicationLe).Pairwise fun a b => a.id ≠ b.id :=
    List.pairwise_map.1 (((List.mergeSort_perm rules _).map _).nodup_iff.2 h)
  exact (hsorted.and hids).imp fun hab => before_of_applicationLe hab.1 hab.2

variable {rules : List Rule}

/-- **The enabled rules are put in their order.** -/
theorem pairwise_enabledInOrder (h : (rules.map (·.id)).Nodup) :
    (enabledInOrder rules).Pairwise Before :=
  pairwise_mergeSort (h.sublist (List.filter_sublist.map _))

theorem enabledInOrder_perm (rules : List Rule) :
    (enabledInOrder rules).Perm (rules.filter (·.enabled)) :=
  List.mergeSort_perm _ _

theorem mem_enabledInOrder_iff {r : Rule} :
    r ∈ enabledInOrder rules ↔ r ∈ rules ∧ r.enabled = true := by
  rw [(enabledInOrder_perm rules).mem_iff, List.mem_filter]

/-! ### What rules write -/

/-- The category set last is set by a rule behind which none sets one. -/
theorem lastCategory_append (rules : List Rule) (r : Rule) :
    lastCategory (rules ++ [r]) = r.setCategory.or (lastCategory rules) := by
  rw [lastCategory, lastCategory, List.filterMap_append]
  cases h : r.setCategory with
  | none => simp [h]
  | some c => simp [h]

/-- **The last rule that sets a category sets it.** -/
theorem lastCategory_eq_some_iff (h : rules.Pairwise Before) {c : Int} :
    lastCategory rules = some c ↔
      ∃ r ∈ rules, r.setCategory = some c ∧
        ∀ r' ∈ rules, r'.setCategory ≠ none → r' = r ∨ Before r' r := by
  -- the last rule decides, so the induction is on the rules from their end
  induction rules using List.reverseRecOn with
  | nil => simp [lastCategory]
  | append_singleton rules r ih =>
      obtain ⟨hrules, -, hlast⟩ := List.pairwise_append.1 h
      rw [lastCategory_append]
      cases hr : r.setCategory with
      | some c' =>
          rw [Option.some_or, Option.some_inj]
          constructor
          · rintro rfl
            refine ⟨r, by simp, hr, fun r' hr' _ => ?_⟩
            rcases List.mem_append.1 hr' with hr' | hr'
            · exact .inr (hlast r' hr' r (by simp))
            · exact .inl (List.mem_singleton.1 hr')
          · rintro ⟨r₀, hr₀, hc, hmax⟩
            -- the rule that counts is the last one, since that one sets a category too
            rcases hmax r (by simp) (by simp [hr]) with rfl | hbefore
            · rw [hr] at hc
              exact Option.some_inj.1 hc
            · rcases List.mem_append.1 hr₀ with hr₀ | hr₀
              · exact absurd (hlast r₀ hr₀ r (by simp)) hbefore.asymm
              · rw [List.mem_singleton.1 hr₀, hr] at hc
                exact Option.some_inj.1 hc
      | none =>
          rw [Option.none_or, ih hrules]
          constructor
          · rintro ⟨r₀, hr₀, hc, hmax⟩
            refine ⟨r₀, by simp [hr₀], hc, fun r' hr' hset => ?_⟩
            rcases List.mem_append.1 hr' with hr' | hr'
            · exact hmax r' hr' hset
            · rw [List.mem_singleton.1 hr', hr] at hset
              exact absurd rfl hset
          · rintro ⟨r₀, hr₀, hc, hmax⟩
            rcases List.mem_append.1 hr₀ with hr₀ | hr₀
            · exact ⟨r₀, hr₀, hc, fun r' hr' => hmax r' (by simp [hr'])⟩
            · rw [List.mem_singleton.1 hr₀, hr] at hc
              cases hc

/-- The tags that are added: those that a rule adds and that are not there. -/
theorem mem_addedTags_iff {tags : List Tag} {i : Int} :
    i ∈ addedTags tags rules ↔ (∃ r ∈ rules, i ∈ r.addTags) ∧ ∀ g ∈ tags, g.id ≠ i := by
  simp only [addedTags, mem_ascending_iff, List.mem_filter, List.mem_flatMap]
  refine and_congr_right fun _ => ?_
  simp

theorem pairwise_addedTags (tags : List Tag) (rules : List Rule) :
    (addedTags tags rules).Pairwise (· < ·) :=
  pairwise_ascending _

end Coffer.Rules
