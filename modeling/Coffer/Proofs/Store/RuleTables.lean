/-
**Rules and their tags as two tables.**

A rule of the store carries the ids of its tags.  A file keeps rules in two tables: a row for each
rule, and a pair of ids for each tag that a rule adds.  A rule is entered by one statement for its
row and one for each of its tags, and the pairs of a rule are deleted with its row.  Since the id of
a deleted rule is given out again, a pair that stayed behind would be found on another rule; none
does.

Main definitions:

* `Coffer.RuleTables` — the two tables;
* `Coffer.RuleTables.after`, `Coffer.RuleTables.run` — what operations do to them;
* `Coffer.RuleTables.rules` — the rules that are read from them;
* `Coffer.RuleTables.Holds` — the tables hold the rules of a store.

Main results:

* `Coffer.RuleTables.tagsOf_eq_ascending` — what is read as the tags of a rule;
* `Coffer.RuleTables.insert_cases` — a rule is entered into the tables as it is into the store;
* `Coffer.RuleTables.holds_run` — **the tables hold the rules after every row of operations, no pair
  is there twice, and both ends of every pair are there.**
-/

import Coffer.Proofs.Store.References

set_option autoImplicit false

namespace Coffer

open Store (freshId demand demandOpt)

/-- A row of the table of rules. -/
structure RuleRow where
  id : Int
  name : String
  filter : Int
  setCategory : Option Int
  enabled : Bool
  sortOrder : Int

/-- A tag that a rule adds. -/
structure RuleTag where
  rule : Int
  tag : Int
  deriving DecidableEq

/-- **The table of rules and the table of the tags that they add.** -/
structure RuleTables where
  rows : List RuleRow
  tags : List RuleTag

namespace RuleTables

/-! ### Statements -/

/-- Tables without rows. -/
def empty : RuleTables := ⟨[], []⟩

/-- Whether there is a row with this id. -/
def hasRule (t : RuleTables) (i : Int) : Bool := t.rows.any (·.id == i)

/-- The tables with one more row, of an enabled rule. -/
def withRow (t : RuleTables) (d : RuleDraft) (i : Int) : RuleTables :=
  { t with rows := t.rows ++ [⟨i, d.name, d.filter, d.setCategory, true, d.sortOrder⟩] }

/-- Enters the row of a rule. -/
def insertRow (s : Store) (d : RuleDraft) (t : RuleTables) :
    Except StoreError (Int × RuleTables) := do
  demandOpt s.hasCategory d.setCategory
  let i := freshId (t.rows.map RuleRow.id)
  return (i, t.withRow d i)

/-- Enters a tag of a rule; one that is there is passed over. -/
def insertTag (s : Store) (l : RuleTag) (t : RuleTables) : Except StoreError RuleTables := do
  if t.tags.contains l then return t
  else
    demand (t.hasRule l.rule)
    demand (s.hasTag l.tag)
    return { t with tags := t.tags ++ [l] }

/-- Enters a rule, its row first and then its tags one by one. -/
def insert (s : Store) (d : RuleDraft) (t : RuleTables) : Except StoreError (Int × RuleTables) := do
  let (i, t) ← t.insertRow s d
  let t ← d.addTags.foldlM (fun t g => t.insertTag s ⟨i, g⟩) t
  return (i, t)

/-- Enables or disables a rule. -/
def enable (i : Int) (enabled : Bool) (t : RuleTables) : RuleTables :=
  { t with rows := t.rows.map fun r => if r.id = i then { r with enabled := enabled } else r }

/-- Deletes the row of a rule and its tags. -/
def delete (i : Int) (t : RuleTables) : RuleTables :=
  ⟨t.rows.filter (·.id != i), t.tags.filter (·.rule != i)⟩

/-- The tables after an operation on a store. -/
def after (t : RuleTables) (s : Store) : Operation → RuleTables
  | .addRule d =>
    match t.insert s d with
    | .ok (_, t') => t'
    | .error _ => t
  | .enableRule i enabled => t.enable i enabled
  | .deleteRule i => t.delete i
  | _ => t

/-- The tables after a row of operations on a store. -/
def run (t : RuleTables) (s : Store) : List Operation → RuleTables
  | [] => t
  | op :: rest => (t.after s op).run (s.after op) rest

/-! ### Reading -/

/-- The ids of the tags of a rule in ascending order. -/
def tagsOf (t : RuleTables) (rule : Int) : List Int :=
  ((t.tags.filter (·.rule == rule)).map RuleTag.tag).mergeSort fun a b => decide (a ≤ b)

/-- The rule of a row. -/
def rule (t : RuleTables) (r : RuleRow) : Rule :=
  { name := r.name, filter := r.filter, setCategory := r.setCategory, addTags := t.tagsOf r.id,
    sortOrder := r.sortOrder, id := r.id, enabled := r.enabled }

/-- **The rules that are read from the tables.** -/
def rules (t : RuleTables) : List Rule := t.rows.map t.rule

/-- **The tables hold the rules of a store:** no pair is there twice, and both ends of every pair
are there. -/
structure Holds (t : RuleTables) (s : Store) : Prop where
  rules : t.rules = s.rules
  tags : t.tags.Nodup
  ends : ∀ l ∈ t.tags, t.hasRule l.rule = true ∧ s.hasTag l.tag = true

variable {t u : RuleTables} {s s' : Store} {i g : Int} {gs : List Int}

theorem mem_tagsOf_iff : g ∈ t.tagsOf i ↔ ⟨i, g⟩ ∈ t.tags := by
  simp only [tagsOf, List.mem_mergeSort, List.mem_map, List.mem_filter, beq_iff_eq]
  constructor
  · rintro ⟨l, ⟨hl, rfl⟩, rfl⟩
    exact hl
  · intro h
    exact ⟨⟨i, g⟩, ⟨h, rfl⟩, rfl⟩

theorem nodup_tagsOf (h : t.tags.Nodup) (i : Int) : (t.tagsOf i).Nodup := by
  refine (List.mergeSort_perm _ _).nodup_iff.2 ?_
  refine List.Nodup.map_on ?_ (h.filter _)
  intro l hl l' hl' htag
  have hrule : l.rule = l'.rule := by
    rw [eq_of_beq (List.mem_filter.1 hl).2, eq_of_beq (List.mem_filter.1 hl').2]
  cases l
  cases l'
  cases hrule
  cases htag
  rfl

/-- Sorting puts records in the order of their keys. -/
theorem pairwise_mergeSort_key {α : Type} (key : α → Int) (xs : List α) :
    (xs.mergeSort fun a b => decide (key a ≤ key b)).Pairwise fun a b => key a ≤ key b := by
  have htrans : ∀ a b c : α, decide (key a ≤ key b) = true → decide (key b ≤ key c) = true →
      decide (key a ≤ key c) = true := by
    intro a b c hab hbc
    exact decide_eq_true (Int.le_trans (of_decide_eq_true hab) (of_decide_eq_true hbc))
  have htotal : ∀ a b : α, (decide (key a ≤ key b) || decide (key b ≤ key a)) = true := by
    intro a b
    simpa using Int.le_total (key a) (key b)
  exact (List.pairwise_mergeSort htrans htotal _).imp of_decide_eq_true

theorem pairwise_tagsOf (t : RuleTables) (i : Int) : (t.tagsOf i).Pairwise (· ≤ ·) :=
  pairwise_mergeSort_key id _

/-- What is read as the tags of a rule: the ids that are paired with it, ascending and each once. -/
theorem tagsOf_eq_ascending (h : t.tags.Nodup) (hmem : ∀ g, ⟨i, g⟩ ∈ t.tags ↔ g ∈ gs) :
    t.tagsOf i = ascending gs := by
  have hstrict := pairwise_ascending gs
  have hnodup : (ascending gs).Nodup := hstrict.imp Int.ne_of_lt
  have hperm : (t.tagsOf i).Perm (ascending gs) := by
    refine (List.perm_ext_iff_of_nodup (nodup_tagsOf h i) hnodup).2 fun g => ?_
    rw [mem_tagsOf_iff, hmem, mem_ascending_iff]
  exact hperm.eq_of_pairwise (fun a b _ _ hab hba => Int.le_antisymm hab hba)
    (pairwise_tagsOf t i) (hstrict.imp Int.le_of_lt)

/-- Pairs of other rules do not matter. -/
theorem tagsOf_congr (ht : t.tags.Nodup) (hu : u.tags.Nodup)
    (h : ∀ g, ⟨i, g⟩ ∈ u.tags ↔ ⟨i, g⟩ ∈ t.tags) : u.tagsOf i = t.tagsOf i := by
  have hthis : t.tagsOf i = ascending (t.tagsOf i) :=
    tagsOf_eq_ascending ht fun g => mem_tagsOf_iff.symm
  rw [hthis]
  exact tagsOf_eq_ascending hu fun g => (h g).trans mem_tagsOf_iff.symm

/-! ### Entering a rule -/

/-- Tables that have more tags of one rule than others. -/
structure Adds (t u : RuleTables) (i : Int) (gs : List Int) : Prop where
  rows : u.rows = t.rows
  nodup : t.tags.Nodup → u.tags.Nodup
  mem : ∀ l, l ∈ u.tags ↔ l ∈ t.tags ∨ l.rule = i ∧ l.tag ∈ gs

theorem exists_insertTag (hrule : t.hasRule i = true) (hg : s.hasTag g = true) :
    ∃ u, t.insertTag s ⟨i, g⟩ = .ok u ∧ Adds t u i [g] := by
  have hpair (l : RuleTag) : l.rule = i ∧ l.tag ∈ [g] ↔ l = ⟨i, g⟩ := by
    cases l
    simp
  unfold insertTag
  by_cases hmem : (⟨i, g⟩ : RuleTag) ∈ t.tags
  · rw [if_pos (List.contains_iff_mem.2 hmem)]
    refine ⟨t, rfl, rfl, id, fun l => ?_⟩
    rw [hpair]
    constructor
    · exact .inl
    · rintro (hl | rfl)
      · exact hl
      · exact hmem
  · rw [if_neg (mt List.contains_iff_mem.1 hmem), hrule, hg]
    refine ⟨{ t with tags := t.tags ++ [⟨i, g⟩] }, rfl, rfl, fun h => ?_, fun l => ?_⟩
    · refine List.nodup_append.2 ⟨h, by simp, fun l hl l' hl' heq => hmem ?_⟩
      rw [← List.mem_singleton.1 hl', ← heq]
      exact hl
    · rw [hpair, List.mem_append, List.mem_singleton]

/-- A rule gets its tags one by one if all of them are there. -/
theorem exists_foldlM_insertTag (hrule : t.hasRule i = true) (hgs : gs.all s.hasTag = true) :
    ∃ u, gs.foldlM (fun t g => t.insertTag s ⟨i, g⟩) t = .ok u ∧ Adds t u i gs := by
  induction gs generalizing t with
  | nil => exact ⟨t, rfl, rfl, id, fun l => by simp⟩
  | cons g rest ih =>
      rw [List.all_cons, Bool.and_eq_true] at hgs
      obtain ⟨u, hu, hadds⟩ := exists_insertTag hrule hgs.1
      have hrule' : u.hasRule i = true := by
        rw [hasRule, hadds.rows]
        exact hrule
      obtain ⟨v, hv, hmore⟩ := ih hrule' hgs.2
      refine ⟨v, ?_, hmore.rows.trans hadds.rows, fun h => hmore.nodup (hadds.nodup h), fun l => ?_⟩
      · rw [List.foldlM_cons, hu]
        exact hv
      · rw [hmore.mem, hadds.mem, List.mem_singleton, List.mem_cons]
        tauto

/-- A tag that is not there stops it. -/
theorem foldlM_insertTag_eq_error (hrule : t.hasRule i = true) (hgs : gs.all s.hasTag = false)
    (hthere : ∀ g, ⟨i, g⟩ ∈ t.tags → s.hasTag g = true) :
    gs.foldlM (fun t g => t.insertTag s ⟨i, g⟩) t = .error .foreignKey := by
  induction gs generalizing t with
  | nil => cases hgs
  | cons g rest ih =>
      rw [List.foldlM_cons]
      cases hg : s.hasTag g with
      | false =>
          have hnew : (⟨i, g⟩ : RuleTag) ∉ t.tags := by
            intro hmem
            rw [hthere g hmem] at hg
            cases hg
          unfold insertTag
          rw [if_neg (mt List.contains_iff_mem.1 hnew), hrule, hg]
          rfl
      | true =>
          obtain ⟨u, hu, hadds⟩ := exists_insertTag hrule hg
          have hrule' : u.hasRule i = true := by
            rw [hasRule, hadds.rows]
            exact hrule
          rw [hu]
          refine ih hrule' ?_ fun g' hg' => ?_
          · rwa [List.all_cons, hg, Bool.true_and] at hgs
          · rcases (hadds.mem _).1 hg' with hold | ⟨-, hnew⟩
            · exact hthere g' hold
            · obtain rfl : g' = g := List.mem_singleton.1 hnew
              exact hg

theorem hasRule_iff : t.hasRule i = true ↔ i ∈ t.rows.map RuleRow.id := by
  simp [hasRule]

namespace Holds

theorem ids (h : t.Holds s) : t.rows.map RuleRow.id = s.rules.map Rule.id := by
  rw [← h.rules, RuleTables.rules, List.map_map]
  rfl

/-- No pair has the id of the next rule. -/
theorem freshId_unpaired (h : t.Holds s) (g : Int) :
    (⟨freshId (t.rows.map RuleRow.id), g⟩ : RuleTag) ∉ t.tags := by
  intro hmem
  exact Store.freshId_notMem _ (hasRule_iff.1 (h.ends _ hmem).1)

/-- The tables hold the rules still if their rules and tags are still the same. -/
theorem of_rules_eq (h : t.Holds s) (hrules : s'.rules = s.rules) (hs : s.Extends s') :
    t.Holds s' where
  rules := h.rules.trans hrules.symm
  tags := h.tags
  ends := fun l hl => ⟨(h.ends l hl).1, hs.tags _ (h.ends l hl).2⟩

/-- A row and its tags make a rule, and the other rules stay as they are. -/
theorem withRow (h : t.Holds s) {d : RuleDraft} (hi : i = freshId (t.rows.map RuleRow.id))
    (hadds : Adds (t.withRow d i) u i d.addTags) (htags : ∀ g ∈ d.addTags, s.hasTag g = true) :
    u.Holds { s with rules := s.rules ++
      [{ d with addTags := ascending d.addTags, id := i, enabled := true }] } := by
  have hnew : ∀ g, (⟨i, g⟩ : RuleTag) ∉ t.tags := by
    rw [hi]
    exact h.freshId_unpaired
  have hnodup : u.tags.Nodup := hadds.nodup h.tags
  have hold : ∀ r ∈ t.rows, u.rule r = t.rule r := by
    intro r hr
    have hne : r.id ≠ i := by
      intro heq
      refine Store.freshId_notMem (t.rows.map RuleRow.id) ?_
      rw [← hi, ← heq]
      exact List.mem_map_of_mem hr
    have hsame : u.tagsOf r.id = t.tagsOf r.id := by
      refine tagsOf_congr h.tags hnodup fun g => ?_
      rw [hadds.mem]
      simp [hne, RuleTables.withRow]
    rw [rule, rule, hsame]
  have hadded : u.tagsOf i = ascending d.addTags := by
    refine tagsOf_eq_ascending hnodup fun g => ?_
    rw [hadds.mem]
    simp [RuleTables.withRow, hnew g]
  refine ⟨?_, hnodup, fun l hl => ?_⟩
  · show u.rows.map u.rule = s.rules ++ [_]
    rw [hadds.rows, RuleTables.withRow, List.map_append, List.map_congr_left hold, ← h.rules]
    show _ ++ [u.rule _] = _
    rw [rule, hadded]
    rfl
  · have hrow : ∀ j, t.hasRule j = true → u.hasRule j = true := by
      intro j hj
      rw [hasRule, hadds.rows]
      exact Store.any_append_of_any hj _
    rcases (hadds.mem l).1 hl with hl | ⟨hrule, htag⟩
    · exact ⟨hrow _ (h.ends l hl).1, (h.ends l hl).2⟩
    · refine ⟨?_, htags _ htag⟩
      rw [hasRule, hadds.rows, hrule]
      simp [RuleTables.withRow]

end Holds

/-- A rule whose category is there is entered if its tags are. -/
theorem insert_eq {d : RuleDraft} {x : Unit} (h : demandOpt s.hasCategory d.setCategory = .ok x) :
    t.insert s d =
      (d.addTags.foldlM (fun u g => insertTag s ⟨freshId (t.rows.map RuleRow.id), g⟩ u)
        (t.withRow d (freshId (t.rows.map RuleRow.id)))).map
          (freshId (t.rows.map RuleRow.id), ·) := by
  have hrow : t.insertRow s d =
      .ok (freshId (t.rows.map RuleRow.id), t.withRow d (freshId (t.rows.map RuleRow.id))) := by
    unfold insertRow
    rw [h]
    rfl
  unfold insert
  rw [hrow]
  rfl

/-- **A rule is entered into the tables as it is into the store:** it is refused for the same cause,
or it gets the same id, and the tables hold the rules of the store after it. -/
theorem insert_cases (h : t.Holds s) (d : RuleDraft) :
    (∃ e, s.addRule d = .error e ∧ t.insert s d = .error e) ∨
      ∃ i s' t', s.addRule d = .ok (i, s') ∧ t.insert s d = .ok (i, t') ∧ t'.Holds s' := by
  unfold Store.addRule
  cases hcategory : demandOpt s.hasCategory d.setCategory with
  | error e =>
      refine .inl ⟨e, rfl, ?_⟩
      unfold insert insertRow
      rw [hcategory]
      rfl
  | ok x =>
      rw [insert_eq hcategory]
      have hrule : (t.withRow d (freshId (t.rows.map RuleRow.id))).hasRule
          (freshId (t.rows.map RuleRow.id)) = true := by
        simp [hasRule, withRow]
      cases htags : d.addTags.all s.hasTag with
      | false =>
          refine .inl ⟨.foreignKey, rfl, ?_⟩
          rw [foldlM_insertTag_eq_error hrule htags fun g hg => absurd hg (h.freshId_unpaired g)]
          rfl
      | true =>
          obtain ⟨u, hu, hadds⟩ := exists_foldlM_insertTag hrule htags
          have hi : freshId (t.rows.map RuleRow.id) = freshId (s.rules.map Rule.id) :=
            congrArg freshId h.ids
          rw [hi] at hu hadds
          refine .inr ⟨_, _, u, rfl, ?_, h.withRow hi.symm hadds (List.all_eq_true.1 htags)⟩
          rw [hi, hu]
          rfl

/-! ### Other statements -/

namespace Holds

theorem enable (h : t.Holds s) (i : Int) (enabled : Bool) :
    (t.enable i enabled).Holds (s.enableRule i enabled).2 := by
  have hids : (t.enable i enabled).rows.map RuleRow.id = t.rows.map RuleRow.id :=
    map_rewrite (fun r => by split <;> rfl) t.rows
  refine ⟨?_, h.tags, fun l hl => ⟨?_, (h.ends l hl).2⟩⟩
  · show (t.rows.map _).map _ = s.rules.map _
    rw [← h.rules, RuleTables.rules, List.map_map, List.map_map]
    refine List.map_congr_left fun r _ => ?_
    show (t.enable i enabled).rule (if r.id = i then { r with enabled := enabled } else r) =
      if r.id = i then { t.rule r with enabled := enabled } else t.rule r
    by_cases hr : r.id = i
    · rw [if_pos hr, if_pos hr]
      rfl
    · rw [if_neg hr, if_neg hr]
      rfl
  · rw [hasRule_iff, hids, ← hasRule_iff]
    exact (h.ends l hl).1

/-- The tags of a rule are deleted with its row, so that those that are left have theirs still. -/
theorem delete (h : t.Holds s) (i : Int) : (t.delete i).Holds (s.deleteRule i).2 := by
  have hrows : ∀ r ∈ t.rows.filter (·.id != i), (t.delete i).rule r = t.rule r := by
    intro r hr
    have hne : r.id ≠ i := by simpa using (List.mem_filter.1 hr).2
    have hsame : (t.delete i).tagsOf r.id = t.tagsOf r.id := by
      refine tagsOf_congr h.tags (h.tags.filter _) fun g => ?_
      simp [RuleTables.delete, hne]
    rw [rule, rule, hsame]
  refine ⟨?_, h.tags.filter _, fun l hl => ?_⟩
  · show (t.rows.filter (·.id != i)).map (t.delete i).rule = s.rules.filter (·.id != i)
    rw [List.map_congr_left hrows, ← h.rules, RuleTables.rules, List.filter_map]
    rfl
  · obtain ⟨hl, hne⟩ := List.mem_filter.1 hl
    refine ⟨?_, (h.ends l hl).2⟩
    obtain ⟨r, hr, hid⟩ := List.any_eq_true.1 (h.ends l hl).1
    refine List.any_eq_true.2 ⟨r, List.mem_filter.2 ⟨hr, ?_⟩, hid⟩
    rwa [eq_of_beq hid]

/-- **Every operation keeps the rules in the tables.** -/
theorem after (h : t.Holds s) (op : Operation) : (t.after s op).Holds (s.after op) := by
  have hextends : s.Extends (s.after op) := (Store.changes_after s op).extends
  cases op with
  | addRule d =>
      rcases insert_cases h d with ⟨e, hadd, hinsert⟩ | ⟨i, s', t', hadd, hinsert, hholds⟩
      · simp only [RuleTables.after, Store.after, Store.perform, hadd, hinsert]
        exact h
      · simp only [RuleTables.after, Store.after, Store.perform, hadd, hinsert]
        exact hholds
  | enableRule i enabled => exact h.enable i enabled
  | deleteRule i => exact h.delete i
  | _ => exact h.of_rules_eq (Store.sameBut_after s _ .rules (by simp [Operation.tables])) hextends

theorem run (h : t.Holds s) (ops : List Operation) : (t.run s ops).Holds (s.run ops) := by
  induction ops generalizing t s with
  | nil => exact h
  | cons op rest ih => exact ih (h.after op)

end Holds

theorem holds_empty : empty.Holds Store.empty := ⟨rfl, .nil, nofun⟩

/-- **The tables hold the rules after every row of operations.** -/
theorem holds_run (ops : List Operation) :
    (empty.run Store.empty ops).Holds (Store.empty.run ops) :=
  holds_empty.run ops

end RuleTables

end Coffer
