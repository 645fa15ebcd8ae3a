/-
**What writing changes comes to.**

Changes are written one after the other, and each statement looks at what those before it have left.
If no transaction has two changes, and what they refer to is there, then none of the statements is
refused, and all of them together come to this: every transaction gets the category of its change,
and the tags of its change that it does not carry are attached to it by a rule.

Main definitions:

* `Coffer.Store.withMutations` — the store with all changes made at once;
* `Coffer.Store.Admits` — no transaction has two changes, and what they refer to is there.

Main results:

* `Coffer.Store.writeMutations_eq` — **changes that a store admits are all written;**
* `Coffer.Store.withMutations_withMutations` — to write them again changes nothing.
-/

import Coffer.Proofs.Store.References

set_option autoImplicit false

namespace Coffer

/-- A transaction with the category that a change gives it. -/
def Mutation.onRow (m : Mutation) (r : TransactionRow) : TransactionRow :=
  if r.id = m.transaction then
    match m.category with
    | some c => { r with category := some c.after }
    | none => r
  else r

namespace Store

variable {s s' : Store} {m : Mutation} {ms : List Mutation} {i : Int}

/-- The links that rules make from a transaction to those of some tags that it does not carry. -/
def newLinks (s : Store) (i : Int) (tags : List Int) : List TagLink :=
  (tags.filter fun g => !s.isLinked i g).map fun g => ⟨i, g, TagSource.rule.name⟩

/-- The store with one change made. -/
def withMutation (s : Store) (m : Mutation) : Store :=
  { s with
    transactions := s.transactions.map m.onRow
    links := s.links ++ s.newLinks m.transaction m.addedTags }

/-- A transaction with the category of its change, if it has one. -/
def rewritten (ms : List Mutation) (r : TransactionRow) : TransactionRow :=
  match ms.find? (·.transaction == r.id) with
  | some m => m.onRow r
  | none => r

/-- **The store with all changes made at once.** -/
def withMutations (s : Store) (ms : List Mutation) : Store :=
  { s with
    transactions := s.transactions.map (rewritten ms)
    links := s.links ++ ms.flatMap fun m => s.newLinks m.transaction m.addedTags }

/-- **No transaction has two changes,** no tag is added twice, and what is referred to is there. -/
structure Admits (s : Store) (ms : List Mutation) : Prop where
  distinct : (ms.map (·.transaction)).Nodup
  distinctTags : ∀ m ∈ ms, m.addedTags.Nodup
  transactions : ∀ m ∈ ms, s.hasTransaction m.transaction = true
  categories : ∀ m ∈ ms, ∀ c, m.category = some c → s.hasCategory c.after = true
  tags : ∀ m ∈ ms, ∀ g ∈ m.addedTags, s.hasTag g = true

/-- What a store admits stays admitted. -/
theorem Admits.extends (h : s.Admits ms) (hs : Extends s s') : s'.Admits ms where
  distinct := h.distinct
  distinctTags := h.distinctTags
  transactions := fun m hm => hs.transactions _ (h.transactions m hm)
  categories := fun m hm c hc => hs.categories _ (h.categories m hm c hc)
  tags := fun m hm g hg => hs.tags _ (h.tags m hm g hg)

theorem Admits.sublist {ms' : List Mutation} (h : s.Admits ms) (hsub : ms'.Sublist ms) :
    s.Admits ms' where
  distinct := h.distinct.sublist (hsub.map _)
  distinctTags := fun m hm => h.distinctTags m (hsub.subset hm)
  transactions := fun m hm => h.transactions m (hsub.subset hm)
  categories := fun m hm => h.categories m (hsub.subset hm)
  tags := fun m hm => h.tags m (hsub.subset hm)

/-! ### Links -/

theorem isLinked_append (s : Store) (ls : List TagLink) (i g : Int) :
    { s with links := s.links ++ ls }.isLinked i g =
      (s.isLinked i g || ls.any fun l => l.transaction == i && l.tag == g) :=
  List.any_append

theorem mem_newLinks_iff {tags : List Int} {l : TagLink} :
    l ∈ s.newLinks i tags ↔
      l.transaction = i ∧ l.tag ∈ tags ∧ s.isLinked i l.tag = false ∧
        l.source = TagSource.rule.name := by
  simp only [newLinks, List.mem_map, List.mem_filter, Bool.not_eq_true']
  constructor
  · rintro ⟨g, ⟨hg, hnew⟩, rfl⟩
    exact ⟨rfl, hg, hnew, rfl⟩
  · rintro ⟨rfl, hg, hnew, hsource⟩
    exact ⟨l.tag, ⟨hg, hnew⟩, by rw [← hsource]⟩

theorem newLinks_congr {tags : List Int} (h : ∀ g ∈ tags, s'.isLinked i g = s.isLinked i g) :
    s'.newLinks i tags = s.newLinks i tags := by
  unfold newLinks
  congr 1
  exact List.filter_congr fun g hg => by rw [h g hg]

theorem attachTag_eq {g : Int} (hi : s.hasTransaction i = true) (hg : s.hasTag g = true) :
    s.attachTag i g .rule = .ok { s with links := s.links ++ s.newLinks i [g] } := by
  cases hlinked : s.isLinked i g with
  | true =>
      have hnone : s.newLinks i [g] = [] := by simp [newLinks, hlinked]
      unfold isLinked at hlinked
      unfold attachTag
      rw [hlinked, hnone, List.append_nil]
      rfl
  | false =>
      have hone : s.newLinks i [g] = [⟨i, g, TagSource.rule.name⟩] := by simp [newLinks, hlinked]
      unfold isLinked at hlinked
      unfold attachTag
      rw [hlinked, hone, hi, hg]
      rfl

/-- Tags are attached one by one, each unless it is there. -/
theorem foldlM_attachTag {tags : List Int} (hi : s.hasTransaction i = true)
    (htags : ∀ g ∈ tags, s.hasTag g = true) (hdistinct : tags.Nodup) :
    tags.foldlM (fun s g => s.attachTag i g .rule) s =
      .ok { s with links := s.links ++ s.newLinks i tags } := by
  induction tags generalizing s with
  | nil =>
      show Except.ok s = Except.ok { s with links := s.links ++ [] }
      rw [List.append_nil]
  | cons g rest ih =>
      obtain ⟨hg, hrest⟩ := List.nodup_cons.1 hdistinct
      -- the tags behind the first one are other tags, and are linked as they were
      have hsame : ({ s with links := s.links ++ s.newLinks i [g] } : Store).newLinks i rest =
          s.newLinks i rest := by
        refine newLinks_congr fun g' hg' => ?_
        have hne : g ≠ g' := fun heq => hg (heq ▸ hg')
        rw [isLinked_append, List.any_eq_false.2, Bool.or_false]
        intro l hl
        obtain ⟨-, htag, -⟩ := mem_newLinks_iff.1 hl
        simp [List.mem_singleton.1 htag, hne]
      have hcons : s.newLinks i (g :: rest) = s.newLinks i [g] ++ s.newLinks i rest := by
        unfold newLinks
        rw [← List.map_append, ← List.filter_append]
        rfl
      rw [List.foldlM_cons, attachTag_eq hi (htags g (by simp))]
      refine (ih (s := { s with links := s.links ++ s.newLinks i [g] }) hi
        (fun g' hg' => htags g' (by simp [hg'])) hrest).trans ?_
      rw [hsame, hcons, ← List.append_assoc]

/-! ### One change -/

theorem id_onRow (m : Mutation) (r : TransactionRow) : (m.onRow r).id = r.id := by
  unfold Mutation.onRow
  split
  · split <;> rfl
  · rfl

theorem map_onRow_of_none (h : m.category = none) (rows : List TransactionRow) :
    rows.map m.onRow = rows := by
  refine (List.map_congr_left fun r _ => ?_).trans rows.map_id
  unfold Mutation.onRow
  rw [h]
  split <;> rfl

theorem map_onRow_of_some {c : CategoryChange} (h : m.category = some c)
    (rows : List TransactionRow) :
    rows.map m.onRow = rows.map fun t =>
      if t.id = m.transaction then { t with category := some c.after } else t := by
  refine List.map_congr_left fun r _ => ?_
  unfold Mutation.onRow
  rw [h]

theorem ids_onRow (m : Mutation) (rows : List TransactionRow) :
    (rows.map m.onRow).map TransactionRow.id = rows.map TransactionRow.id :=
  map_rewrite (id_onRow m) rows

/-- The category of a change is written if it and the transaction are there. -/
theorem writeCategory_eq (hi : s.hasTransaction m.transaction = true)
    (hcategory : ∀ c, m.category = some c → s.hasCategory c.after = true) :
    (match m.category with
      | some c => s.categorize m.transaction (some c.after)
      | none => .ok s) = .ok { s with transactions := s.transactions.map m.onRow } := by
  cases hc : m.category with
  | none => rw [map_onRow_of_none hc]
  | some c =>
      have hthere : demandOpt s.hasCategory (some c.after) = .ok () := by
        show demand (s.hasCategory c.after) = _
        rw [hcategory c hc]
        rfl
      show s.categorize m.transaction (some c.after) = _
      unfold categorize
      rw [hi, hthere, map_onRow_of_some hc]
      rfl

/-- A change is written if what it refers to is there. -/
theorem writeMutation_eq (h : s.Admits [m]) : s.writeMutation m = .ok (s.withMutation m) := by
  have hi := h.transactions m (by simp)
  have hi' : ({ s with transactions := s.transactions.map m.onRow } : Store).hasTransaction
      m.transaction = true := by
    rw [hasTransaction_iff] at hi ⊢
    rwa [ids_onRow]
  have hsteps : s.writeMutation m = (match m.category with
      | some c => s.categorize m.transaction (some c.after)
      | none => .ok s) >>= fun s =>
        m.addedTags.foldlM (fun s tag => s.attachTag m.transaction tag .rule) s := by
    unfold writeMutation
    cases m.category <;> rfl
  rw [hsteps, writeCategory_eq hi (h.categories m (by simp))]
  exact foldlM_attachTag hi' (h.tags m (by simp)) (h.distinctTags m (by simp))

/-! ### All changes -/

theorem withMutations_cons (h : m.transaction ∉ ms.map (·.transaction)) :
    (s.withMutation m).withMutations ms = s.withMutations (m :: ms) := by
  have hrows : ∀ r, rewritten ms (m.onRow r) = rewritten (m :: ms) r := by
    intro r
    unfold rewritten
    rw [id_onRow]
    by_cases hr : m.transaction = r.id
    · -- the others are about other transactions
      have hnone : ms.find? (·.transaction == r.id) = none := by
        refine List.find?_eq_none.2 fun m' hm' hid => h ?_
        rw [hr, ← eq_of_beq hid]
        exact List.mem_map_of_mem hm'
      rw [hnone, List.find?_cons_of_pos (by simpa using hr)]
    · have hself : m.onRow r = r := if_neg (Ne.symm hr)
      rw [hself, List.find?_cons_of_neg (by simpa using hr)]
  have hlinks : ∀ m' ∈ ms, (s.withMutation m).newLinks m'.transaction m'.addedTags =
      s.newLinks m'.transaction m'.addedTags := by
    intro m' hm'
    refine newLinks_congr fun g hg => ?_
    have hne : m.transaction ≠ m'.transaction := fun heq => h (heq ▸ List.mem_map_of_mem hm')
    refine (isLinked_append s _ _ _).trans ?_
    rw [List.any_eq_false.2, Bool.or_false]
    intro l hl
    simp [(mem_newLinks_iff.1 hl).1, hne]
  unfold withMutations
  rw [List.flatMap_congr hlinks, List.flatMap_cons]
  unfold withMutation
  rw [List.map_map, List.append_assoc]
  congr 1
  exact List.map_congr_left fun r _ => hrows r

theorem withMutations_nil (s : Store) : s.withMutations [] = s := by
  have hrows : s.transactions.map (rewritten []) = s.transactions := s.transactions.map_id
  unfold withMutations
  rw [hrows, List.flatMap_nil, List.append_nil]

/-- **Changes that a store admits are all written.** -/
theorem writeMutations_eq (h : s.Admits ms) : s.writeMutations ms = .ok (s.withMutations ms) := by
  induction ms generalizing s with
  | nil => rw [withMutations_nil]; rfl
  | cons m rest ih =>
      have hfirst : s.Admits [m] := h.sublist (List.singleton_sublist.2 List.mem_cons_self)
      have hothers : s.Admits rest := h.sublist (List.sublist_cons_self m rest)
      have hwrite := writeMutation_eq hfirst
      have hext : Extends s (s.withMutation m) := (changes_writeMutation hwrite).extends
      show (s.writeMutation m >>= fun s => s.writeMutations rest) = _
      rw [hwrite, ← withMutations_cons (List.nodup_cons.1 h.distinct).1]
      exact ih (hothers.extends hext)

/-! ### Once more -/

theorem rewritten_rewritten (ms : List Mutation) (r : TransactionRow) :
    rewritten ms (rewritten ms r) = rewritten ms r := by
  unfold rewritten
  cases hm : ms.find? (·.transaction == r.id) with
  | none => simp only [hm]
  | some m =>
      simp only [id_onRow, hm]
      unfold Mutation.onRow
      cases hc : m.category <;> split <;> simp_all

/-- What is to be added is there afterwards. -/
theorem isLinked_withMutations (hm : m ∈ ms) {g : Int} (hg : g ∈ m.addedTags) :
    (s.withMutations ms).isLinked m.transaction g = true := by
  refine (isLinked_append s _ _ _).trans ?_
  cases hold : s.isLinked m.transaction g with
  | true => rfl
  | false =>
      rw [Bool.false_or, List.any_eq_true]
      exact ⟨⟨m.transaction, g, TagSource.rule.name⟩,
        List.mem_flatMap.2 ⟨m, hm, mem_newLinks_iff.2 ⟨rfl, hg, hold, rfl⟩⟩, by simp⟩

/-- **To make the changes once more changes nothing.** -/
theorem withMutations_withMutations (s : Store) (ms : List Mutation) :
    (s.withMutations ms).withMutations ms = s.withMutations ms := by
  have hrows : (s.withMutations ms).transactions.map (rewritten ms) =
      (s.withMutations ms).transactions := by
    show (s.transactions.map (rewritten ms)).map (rewritten ms) = s.transactions.map (rewritten ms)
    rw [List.map_map]
    exact List.map_congr_left fun r _ => rewritten_rewritten ms r
  have hlinks : (ms.flatMap fun m => (s.withMutations ms).newLinks m.transaction m.addedTags) =
      [] := by
    refine List.flatMap_eq_nil_iff.2 fun m hm => List.eq_nil_iff_forall_not_mem.2 fun l hl => ?_
    obtain ⟨-, htag, hnew, -⟩ := mem_newLinks_iff.1 hl
    rw [isLinked_withMutations hm htag] at hnew
    cases hnew
  rw [withMutations, hrows, hlinks, List.append_nil]

end Store

end Coffer
