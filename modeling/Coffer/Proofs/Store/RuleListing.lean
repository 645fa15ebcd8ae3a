/-
**Rules read back.**

The rules of a file are listed by two queries.  The first reads the pairs of rules and tags by tag,
and each tag is added to those of its rule; the second reads the rows by place and id, and every row
is given the tags that have been collected for its id.  A pair of a deleted rule would turn up on
the rule that has its id now; there is none.

Main definitions:

* `Coffer.RuleTables.ByTag` — what the first query can answer;
* `Coffer.RuleTables.collect` — the tags of the rules, collected from its answer;
* `Coffer.RuleTables.listing` — the rules that the second query gives.

Main results:

* `Coffer.RuleTables.Holds.listing_eq` — the two queries list the rules of the store;
* `Coffer.Store.listRules_append` — a rule under a new id is listed among the others, which stay;
* `Coffer.Store.rules_read_back` — **rules are read back as they were entered, in the order in which
  they apply.**
-/

import Coffer.Proofs.Store.SecondPass

set_option autoImplicit false

namespace Coffer

open Store (thenBy byInt)

namespace RuleTables

/-! ### Two queries -/

/-- What the pairs are read as in the order of their tags; those of one tag come in any order. -/
structure ByTag (t : RuleTables) (pairs : List RuleTag) : Prop where
  perm : pairs.Perm t.tags
  sorted : pairs.Pairwise fun l l' => l.tag ≤ l'.tag

/-- The tags of the rules, each added to those of its rule in turn. -/
def collect (pairs : List RuleTag) : Index (List Int) :=
  pairs.foldl (fun m l => m.put l.rule ((m.get? l.rule).getD [] ++ [l.tag])) .empty

/-- The rule of a row with the tags that have been collected. -/
def joined (tags : Index (List Int)) (r : RuleRow) : Rule :=
  { name := r.name, filter := r.filter, setCategory := r.setCategory,
    addTags := (tags.get? r.id).getD [], sortOrder := r.sortOrder, id := r.id,
    enabled := r.enabled }

/-- **The rules that are listed,** if the first query has answered with these pairs. -/
def listing (t : RuleTables) (pairs : List RuleTag) : List Rule :=
  (t.rows.mergeSort (thenBy (byInt RuleRow.sortOrder) (byInt RuleRow.id))).map
    (joined (collect pairs))

variable {t : RuleTables} {s : Store} {pairs : List RuleTag}

/-- What is collected for a rule, behind what there was. -/
theorem getD_foldl_put (m : Index (List Int)) (i : Int) :
    ((pairs.foldl (fun m l => m.put l.rule ((m.get? l.rule).getD [] ++ [l.tag])) m).get?
        i).getD [] =
      (m.get? i).getD [] ++ (pairs.filter (·.rule == i)).map RuleTag.tag := by
  induction pairs generalizing m with
  | nil => exact (List.append_nil _).symm
  | cons l rest ih =>
      rw [List.foldl_cons, ih, Index.get?_put]
      by_cases hl : l.rule = i
      · rw [if_pos hl, List.filter_cons_of_pos (by simpa using hl), hl, List.map_cons,
          Option.getD_some, List.append_assoc, List.singleton_append]
      · rw [if_neg hl, List.filter_cons_of_neg (by simpa using hl)]

/-- The tags that are collected for a rule are its tags, in whatever order pairs of one tag are
read. -/
theorem ByTag.getD_collect (h : t.ByTag pairs) (i : Int) :
    ((collect pairs).get? i).getD [] = t.tagsOf i := by
  have hcollect : ((collect pairs).get? i).getD [] = (pairs.filter (·.rule == i)).map RuleTag.tag :=
    getD_foldl_put .empty i
  have hperm : ((pairs.filter (·.rule == i)).map RuleTag.tag).Perm (t.tagsOf i) :=
    ((h.perm.filter _).map _).trans (List.mergeSort_perm _ _).symm
  have hsorted : ((pairs.filter (·.rule == i)).map RuleTag.tag).Pairwise (· ≤ ·) :=
    List.pairwise_map.2 (h.sorted.filter _)
  rw [hcollect]
  exact hperm.eq_of_pairwise (fun a b _ _ hab hba => Int.le_antisymm hab hba) hsorted
    (pairwise_tagsOf t i)

/-- **The two queries list the rules of the store.** -/
theorem Holds.listing_eq (h : t.Holds s) (hpairs : t.ByTag pairs) :
    t.listing pairs = s.listRules := by
  have hjoined : joined (collect pairs) = t.rule := by
    funext r
    rw [joined, hpairs.getD_collect]
    rfl
  rw [listing, hjoined, Store.listRules, ← h.rules]
  exact List.map_mergeSort fun r _ r' _ => rfl

/-- The pairs, put in the order of their tags, are an answer of the first query. -/
theorem byTag_mergeSort (t : RuleTables) : t.ByTag (t.tags.mergeSort (byInt RuleTag.tag)) where
  perm := List.mergeSort_perm _ _
  sorted := pairwise_mergeSort_key RuleTag.tag t.tags

end RuleTables

/-! ### The order -/

namespace Store

variable {s t : Store}

/-- Rules are listed in the order in which they apply. -/
theorem listRules_eq (s : Store) : s.listRules = s.rules.mergeSort Rules.applicationLe := by
  have hle : thenBy (byInt fun r : Rule => r.sortOrder) (byInt Rule.id) = Rules.applicationLe := by
    funext a b
    unfold thenBy byInt Rules.applicationLe
    grind
  rw [listRules, hle]

theorem pairwise_listRules (h : (s.rules.map Rule.id).Nodup) :
    s.listRules.Pairwise Rules.Before := by
  rw [listRules_eq]
  exact Rules.pairwise_mergeSort h

theorem listRules_perm (s : Store) : s.listRules.Perm s.rules := List.mergeSort_perm _ _

/-- The same rules in order are the same list. -/
theorem eq_of_perm_of_before {rs rs' : List Rule} (hperm : rs.Perm rs')
    (h : rs.Pairwise Rules.Before) (h' : rs'.Pairwise Rules.Before) : rs = rs' :=
  hperm.eq_of_pairwise (fun _ _ _ _ hab hba => absurd hba hab.asymm) h h'

/-- The enabled rules apply in the order in which they are listed. -/
theorem enabledInOrder_listRules (h : (s.rules.map Rule.id).Nodup) :
    Rules.enabledInOrder s.listRules = s.listRules.filter (·.enabled) := by
  have hids : (s.listRules.map Rule.id).Nodup := ((listRules_perm s).map _).nodup_iff.2 h
  exact eq_of_perm_of_before (Rules.enabledInOrder_perm _) (Rules.pairwise_enabledInOrder hids)
    ((pairwise_listRules h).filter _)

/-! ### A new rule -/

/-- **A rule under a new id is listed once,** and the others are listed as they were. -/
theorem listRules_append {r : Rule} (h : ((s.rules ++ [r]).map Rule.id).Nodup)
    (ht : t.rules = s.rules ++ [r]) :
    t.listRules.filter (·.id == r.id) = [r] ∧ t.listRules.filter (·.id != r.id) = s.listRules := by
  have hlist : t.listRules.Perm (s.rules ++ [r]) := ht ▸ listRules_perm t
  have hsorted : t.listRules.Pairwise Rules.Before := pairwise_listRules (ht ▸ h)
  have hone : (s.rules ++ [r]).filter (·.id == r.id) = [r] := filter_id_eq_singleton h (by simp)
  have hothers : (s.rules ++ [r]).filter (·.id != r.id) = s.rules := by
    rw [List.map_append, List.nodup_append] at h
    have hne : ∀ r' ∈ s.rules, (r'.id != r.id) = true := by
      intro r' hr'
      simpa using h.2.2 _ (List.mem_map_of_mem hr') r.id (by simp)
    rw [List.filter_append, List.filter_eq_self.2 hne]
    simp
  constructor
  · rw [← List.perm_singleton, ← hone]
    exact hlist.filter _
  · have hperm : (t.listRules.filter (·.id != r.id)).Perm s.rules := by
      have := hlist.filter (·.id != r.id)
      rwa [hothers] at this
    have hids : (s.rules.map Rule.id).Nodup := by
      rw [List.map_append] at h
      exact (List.nodup_append.1 h).1
    exact eq_of_perm_of_before (hperm.trans (listRules_perm s).symm) (hsorted.filter _)
      (pairwise_listRules hids)

/-- **Rules are read back as they were entered.**  After every row of operations the two queries
list the rules of the store, in the order in which they apply, and what a snapshot applies are the
enabled ones as they stand there.  A rule that is entered then is listed once under its id, enabled,
with what was given and its tags each once and ascending; that id may have been that of a rule
before, but no pair of it is left.  All other rules are listed as they were. -/
theorem rules_read_back (ops : List Operation) :
    (∃ pairs, (RuleTables.empty.run empty ops).ByTag pairs) ∧
    (∀ pairs, (RuleTables.empty.run empty ops).ByTag pairs →
      (RuleTables.empty.run empty ops).listing pairs = (run empty ops).listRules) ∧
    (run empty ops).listRules.Pairwise Rules.Before ∧
    (∃ n, (run empty ops).snapshot = .ok n ∧ n.rules = (run empty ops).listRules ∧
      Rules.enabledInOrder n.rules = (run empty ops).listRules.filter (·.enabled)) ∧
    ∀ d i t, (run empty ops).perform (.addRule d) = .ok (.id i, t) →
      t = run empty (ops ++ [.addRule d]) ∧
      t.listRules.filter (·.id == i) =
        [{ d with addTags := ascending d.addTags, id := i, enabled := true }] ∧
      (ascending d.addTags).Pairwise (· < ·) ∧ (∀ g, g ∈ ascending d.addTags ↔ g ∈ d.addTags) ∧
      (∀ g, ⟨i, g⟩ ∉ (RuleTables.empty.run empty ops).tags) ∧
      t.listRules.filter (·.id != i) = (run empty ops).listRules := by
  have hholds := RuleTables.holds_run ops
  have hids : ((run empty ops).rules.map Rule.id).Nodup := (distinctBindings_run ops).rules
  refine ⟨⟨_, RuleTables.byTag_mergeSort _⟩, fun pairs hpairs => hholds.listing_eq hpairs,
    pairwise_listRules hids, ?_, fun d i t hadd => ?_⟩
  · obtain ⟨n, hn⟩ := (sound_run ops).exists_snapshot
    have hrules : n.rules = (run empty ops).listRules := (others_of_snapshot hn).2
    exact ⟨n, hn, hrules, hrules ▸ enabledInOrder_listRules hids⟩
  · have hrun : t = run empty (ops ++ [.addRule d]) := by
      rw [run_append, run_of_perform hadd]
      rfl
    obtain ⟨⟨j, t'⟩, hdone, hanswer⟩ := Except.of_map_eq_ok hadd
    cases hanswer
    obtain ⟨hfresh, ht⟩ := addRule_eq_ok hdone
    have hids' : (t.rules.map Rule.id).Nodup := by
      rw [hrun]
      exact (distinctBindings_run _).rules
    have hrules : t.rules = (run empty ops).rules ++
        [{ d with addTags := ascending d.addTags, id := i, enabled := true }] := by rw [ht]
    obtain ⟨hone, hothers⟩ := listRules_append (hrules ▸ hids') hrules
    refine ⟨hrun, hone, pairwise_ascending _, fun g => mem_ascending_iff, fun g hg => ?_, hothers⟩
    rw [hfresh, ← hholds.ids] at hg
    exact hholds.freshId_unpaired g hg

/-- A rule with tags is deleted; another one is left at the same place. -/
def oneOfTwoLeft : List Operation :=
  [.ensureCategory "Food" 0 none, .ensureTag "daily" none, .ensureTag "rare" none,
    .addRule ⟨"left", 1, none, [2], 3⟩, .addRule ⟨"gone", 1, some 1, [2, 1, 2], 3⟩, .deleteRule 2]

/-- The next rule gets the id of the one that is gone, and of the tags only the one that it names
twice. The tags are read with its pair first, and it is listed behind the rule that was left. -/
theorem rules_read_back_oneOfTwoLeft : ∃ t,
    (run empty oneOfTwoLeft).perform (.addRule ⟨"next", 7, none, [1, 1], 3⟩) = .ok (.id 2, t) ∧
    t.listRules.filter (·.id == 2) = [⟨⟨"next", 7, none, [1], 3⟩, 2, true⟩] ∧
    t.listRules.filter (·.id != 2) = (run empty oneOfTwoLeft).listRules ∧
    (RuleTables.empty.run empty (oneOfTwoLeft ++ [.addRule ⟨"next", 7, none, [1, 1], 3⟩])).listing
      [⟨2, 1⟩, ⟨1, 2⟩] = t.listRules := by
  obtain ⟨-, -, -, -, hadd⟩ := rules_read_back oneOfTwoLeft
  obtain ⟨hrun, hone, -, -, -, hothers⟩ := hadd ⟨"next", 7, none, [1, 1], 3⟩ 2 _ rfl
  obtain ⟨-, hlisting, -⟩ :=
    rules_read_back (oneOfTwoLeft ++ [.addRule ⟨"next", 7, none, [1, 1], 3⟩])
  refine ⟨_, rfl, hone, hothers, ?_⟩
  rw [hrun]
  exact hlisting _ ⟨by decide, by decide⟩

end Store

end Coffer
