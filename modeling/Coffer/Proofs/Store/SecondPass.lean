/-
**Applying rules once more.**

A pass of the rules writes categories and tags to the store.  When the store is read again, every
transaction stands where it stood, with the category that the pass has given it and with the tags
that it carried and got; names, filters and rules are as they were.  So rules that do not read what
rules write find nothing to do in a second pass.

The rules of a pass need not be those of the store.  They may name categories and tags that are not
there, and then the pass is refused; but a pass that is not refused has made all its changes.

Main definitions: `Coffer.Snapshot.withRules` — a snapshot with other rules.

Main results:

* `Coffer.Store.admits_of_apply` — a store admits what has been applied to it;
* `Coffer.Store.carriedOut_withMutations` — **the store read again is what is left when a plan has
  been carried out;**
* `Coffer.Store.second_pass` — **a second pass changes nothing,** and counts and fails as the first.
-/

import Coffer.Proofs.Rules.Settled
import Coffer.Proofs.Store.Applying
import Coffer.Proofs.Store.Permanence

set_option autoImplicit false

namespace Coffer

/-- A snapshot with other rules. -/
def Snapshot.withRules (n : Snapshot) (rs : List Rule) : Snapshot := { n with rules := rs }

theorem Snapshot.plan_problem (n : Snapshot) (scope : AccountScope) :
    (n.problem scope).plan = n.plan scope := rfl

namespace Store

variable {s s' : Store} {n n' : Snapshot} {scope : AccountScope} {m : Mutation} {ms : List Mutation}
  {rs : List Rule} {a : Rules.Applied}

/-! ### What has been written -/

/-- A category that has been written is there. -/
theorem hasCategory_of_writeMutations (hm : m ∈ ms) (hi : s.hasTransaction m.transaction = true)
    {c : CategoryChange} (hc : m.category = some c) (h : s.writeMutations ms = .ok s') :
    s.hasCategory c.after = true := by
  unfold writeMutations at h
  induction ms generalizing s with
  | nil => cases hm
  | cons m' rest ih =>
      rw [List.foldlM_cons] at h
      obtain ⟨s₁, hs₁, h⟩ := Except.of_bind_eq_ok h
      rcases List.mem_cons.1 hm with rfl | hm
      · obtain ⟨s₂, hnone | ⟨c', hc', hset⟩, -⟩ := of_writeMutation_eq_ok hs₁
        · rw [hc] at hnone
          cases hnone.1
        · rw [hc] at hc'
          cases hc'
          unfold categorize at hset
          rw [if_pos hi] at hset
          obtain ⟨_, hthere, -⟩ := Except.of_bind_eq_ok hset
          exact of_demandOpt_eq_ok hthere _ rfl
      · have hsame : s₁.categories = s.categories := sameBut_writeMutation hs₁ .categories (by simp)
        have hthere := ih hm ((changes_writeMutation hs₁).extends.transactions _ hi) h
        unfold hasCategory at hthere ⊢
        rwa [hsame] at hthere

/-- A tag that has been written is there. -/
theorem hasTag_of_writeMutations (hs : s.Sound) (hm : m ∈ ms) {g : Int} (hg : g ∈ m.addedTags)
    (h : s.writeMutations ms = .ok s') : s.hasTag g = true := by
  have hs' : s'.Sound := (changes_writeMutations h).keeps Sound.change hs
  have hsame : s'.tags = s.tags := sameBut_writeMutations h .tags (by simp)
  obtain ⟨l, hl, hkey⟩ := List.any_eq_true.1 (isLinked_of_writeMutations hm hg h)
  rw [Bool.and_eq_true, beq_iff_eq, beq_iff_eq] at hkey
  have hthere := (hs'.links l hl).2
  unfold hasTag at hthere ⊢
  rwa [hsame, hkey.2] at hthere

/-- **A store admits what has been applied to it,** whatever the rules were. -/
theorem admits_of_apply (hs : s.Sound) (hn : s.snapshot = .ok n)
    (h : (n.withRules rs).apply scope s = .ok (a, s')) :
    s.Admits ((n.withRules rs).plan scope).mutations := by
  have hwrite := (of_apply_eq_ok h).1
  have hids := nodup_ids_of_snapshot hs hn
  have hmem : ∀ m ∈ ((n.withRules rs).plan scope).mutations,
      s.hasTransaction m.transaction = true ∧ m.addedTags.Nodup := by
    intro m hm
    obtain ⟨t, ht, -, hmutation⟩ :=
      (Rules.Problem.mem_mutations_iff (P := (n.withRules rs).problem scope)).1 hm
    obtain ⟨rfl, -⟩ := Rules.Problem.mutation?_eq_some_iff.1 hmutation
    refine ⟨hasTransaction_iff.2 ((perm_ids_of_snapshot hn).mem_iff.1 (List.mem_map_of_mem ht)), ?_⟩
    exact (Rules.pairwise_addedTags _ _).imp fun hlt => Int.ne_of_lt hlt
  exact {
    distinct := Rules.Problem.nodup_mutations (P := (n.withRules rs).problem scope) hids
    distinctTags := fun m hm => (hmem m hm).2
    transactions := fun m hm => (hmem m hm).1
    categories := fun m hm c hc => hasCategory_of_writeMutations hm (hmem m hm).1 hc hwrite
    tags := fun m hm g hg => hasTag_of_writeMutations hs hm hg hwrite }

/-! ### The store read again -/

theorem date_rewritten (ms : List Mutation) (r : TransactionRow) :
    (rewritten ms r).date = r.date := by
  unfold rewritten Mutation.onRow
  split
  · split
    · split <;> rfl
    · rfl
  · rfl

/-- A transaction is read with the category that it has been given. -/
theorem readTransaction_rewritten {r : TransactionRow} {t : Transaction}
    (h : readTransaction r = .ok t) :
    readTransaction (rewritten ms r) = .ok (Rules.relabelled ms t) := by
  unfold readTransaction at h
  split at h
  · next d hd =>
      cases h
      unfold readTransaction Rules.relabelled
      rw [date_rewritten, hd]
      unfold rewritten
      cases hfind : ms.find? (·.transaction == r.id) with
      | none => rfl
      | some m =>
          have hid : r.id = m.transaction := by
            have htrue := List.find?_some hfind
            exact (eq_of_beq htrue).symm
          simp only [Mutation.onRow, if_pos hid, Option.bind_some]
          cases m.category <;> rfl
  · cases h

/-- **The transactions stand where they stood.** -/
theorem listTransactions_withMutations {ts : List Transaction} (h : s.listTransactions = .ok ts) :
    (s.withMutations ms).listTransactions = .ok (ts.map (Rules.relabelled ms)) := by
  have horder : (s.transactions.map (rewritten ms)).mergeSort newestFirst =
      (s.transactions.mergeSort newestFirst).map (rewritten ms) := by
    refine (List.map_mergeSort fun r _ r' _ => ?_).symm
    simp only [newestFirst, thenBy, descending, byDate, byInt, date_rewritten, id_rewritten]
  unfold listTransactions at h ⊢
  show ((s.transactions.map (rewritten ms)).mergeSort newestFirst).mapM readTransaction = _
  rw [horder]
  exact Except.mapM_map_eq_ok (fun r t hread => readTransaction_rewritten hread) h

theorem others_of_snapshot (h : s.snapshot = .ok n) :
    n.savedFilters = Index.ofRecords SavedFilter.id s.listFilters ∧ n.rules = s.listRules := by
  obtain ⟨ts, -, h⟩ := Except.of_bind_eq_ok h
  obtain ⟨gs, -, h⟩ := Except.of_bind_eq_ok h
  cases h
  exact ⟨rfl, rfl⟩

/-- **The store read again is what is left when a plan has been carried out.** -/
theorem carriedOut_withMutations (hs : s.Sound) (hn : s.snapshot = .ok n)
    (hms : ms = ((n.withRules rs).plan scope).mutations) (hs' : (s.withMutations ms).Sound)
    (hn' : (s.withMutations ms).snapshot = .ok n') :
    ((n.withRules rs).problem scope).CarriedOut ((n'.withRules rs).problem scope) where
  catalog := (catalog_of_snapshot hn').1.trans (catalog_of_snapshot hn).1.symm
  savedFilters := (others_of_snapshot hn').1.trans (others_of_snapshot hn).1.symm
  scope := rfl
  rules := rfl
  transactions := by
    have hlist : (s.withMutations ms).listTransactions = _ :=
      listTransactions_withMutations (listTransactions_of_snapshot hn)
    rw [listTransactions_of_snapshot hn'] at hlist
    subst hms
    exact Except.ok.inj hlist
  carried := by
    intro i g hg
    have hlinked : s.isLinked i g.id = true := (mem_tagsOf_iff hs hn).1 (List.mem_map_of_mem hg)
    refine (mem_tagsOf_iff hs' hn').2 ?_
    refine (isLinked_append s _ i g.id).trans ?_
    rw [hlinked, Bool.true_or]
  added := by
    intro m hm i hi
    subst hms
    exact (mem_tagsOf_iff hs' hn').2 (isLinked_withMutations hm hi)

/-! ### The second pass -/

/-- A plan without changes hands on nothing and reports none. -/
theorem carryOut_of_nil {m : Type → Type} [Monad m] {p : RulePlan} (h : p.mutations = [])
    (sink : List Mutation → m Unit) : Rules.carryOut sink p =
      pure ⟨0, 0, 0, p.failedRules, p.failures⟩ := by
  obtain ⟨mutations, counts, failures⟩ := p
  subst h
  rfl

/-- **A second pass changes nothing.**  Take any store that operations have made and any rules whose
filters do not ask for what rules write, and let a pass of them not be refused.  When the store is
read again, the same rules are planned to change nothing, and count and fail as they did; to apply
them hands on no changes, reports none and leaves the store as it is. -/
theorem second_pass (history : List Operation) (hn : (run empty history).snapshot = .ok n)
    (hlabels : Rules.ReadNoLabels n.savedFilters rs)
    (hpass : (n.withRules rs).apply scope (run empty history) = .ok (a, s')) :
    ∃ n', s'.snapshot = .ok n' ∧ n'.rules = n.rules ∧
      (n'.withRules rs).plan scope =
        ⟨[], ((n.withRules rs).plan scope).counts, ((n.withRules rs).plan scope).failures⟩ ∧
      (n'.withRules rs).apply scope s' = .ok (⟨0, 0, 0, a.failedRules, a.failures⟩, s') ∧
      ((Rules.carryOut (Rules.recording sink) ((n'.withRules rs).plan scope)).run []).run s' =
        .ok ((⟨0, 0, 0, a.failedRules, a.failures⟩, []), s') := by
  have hs := sound_run history
  have hadmits := admits_of_apply hs hn hpass
  obtain ⟨rfl, rfl⟩ : a = .ofPlan ((n.withRules rs).plan scope) ∧
      s' = (run empty history).withMutations ((n.withRules rs).plan scope).mutations := by
    have hwritten := hpass.symm.trans (apply_eq hadmits)
    rw [Except.ok.injEq, Prod.mk.injEq] at hwritten
    exact hwritten
  have hs' := (changes_writeMutations (writeMutations_eq hadmits)).keeps Sound.change hs
  obtain ⟨n', hn'⟩ := hs'.exists_snapshot
  have hcarried := carriedOut_withMutations hs hn rfl hs' hn'
  have hids := nodup_ids_of_snapshot hs hn
  have hrules : n'.rules = n.rules :=
    (others_of_snapshot hn').2.trans (others_of_snapshot hn).2.symm
  have hplan := hcarried.plan_eq hlabels hids
  rw [Snapshot.plan_problem, Snapshot.plan_problem] at hplan
  have hnil : ((n'.withRules rs).plan scope).mutations = [] := by rw [hplan]
  have hfailures : ((n'.withRules rs).plan scope).failures =
      ((n.withRules rs).plan scope).failures := by
    rw [hplan]
  have hfailed : ((n'.withRules rs).plan scope).failedRules =
      ((n.withRules rs).plan scope).failedRules := congrArg List.length hfailures
  refine ⟨n', hn', hrules, hplan, ?_, ?_⟩
  · show (Rules.carryOut sink ((n'.withRules rs).plan scope)).run _ = _
    rw [carryOut_of_nil hnil, hfailed, hfailures]
    rfl
  · rw [carryOut_of_nil hnil, hfailed, hfailures]
    rfl

/-- The first pass gives the coffee its category and its tag, and the second finds nothing to do. -/
theorem second_pass_cafe : ∃ n s' n', (run empty cafe).snapshot = .ok n ∧
    n.apply .all (run empty cafe) = .ok (⟨1, 1, 1, 0, []⟩, s') ∧
    s'.snapshot = .ok n' ∧ n'.apply .all s' = .ok (⟨0, 0, 0, 0, []⟩, s') := by
  have hs := sound_run cafe
  obtain ⟨n, hn⟩ := hs.exists_snapshot
  have hlabels : Rules.ReadNoLabels n.savedFilters n.rules := by
    rintro r hr - f ⟨saved, hget, hparse⟩
    have hrule : r ∈ [⟨⟨"coffee", 1, some 1, [1], 0⟩, 1, true⟩] := (mem_rules_of_snapshot hn).1 hr
    rw [savedFilters_of_snapshot (distinctBindings_run cafe) hn, List.mem_singleton.1 hrule] at hget
    have hsaved : some ⟨1, "Coffee", "desc:coffee"⟩ = some saved := hget
    have hread : Filter.parseBound "desc:coffee" =
        .ok (.field ⟨.description, .equal, .text "coffee"⟩) := by
      cbv
    rw [← Option.some_inj.1 hsaved, hread] at hparse
    cases hparse
    rfl
  have hpass : n.apply .all (run empty cafe) = _ := apply_eq (admits_plan hs hn)
  obtain ⟨n', hn', hrules, -, hagain, -⟩ := second_pass cafe hn hlabels hpass
  rw [plan_cafe hn] at hpass hn' hagain
  rw [← hrules] at hagain
  exact ⟨n, _, n', hn, hpass, hn', hagain⟩

end Store

end Coffer
