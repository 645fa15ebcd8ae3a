/-
**A snapshot shows the store.**

A store whose records are in order can always be read: the texts of dates and period lengths are
texts that were written from dates and period lengths.  What the snapshot says of transactions, of
their categories and of their tags, is what the tables say.

Main results:

* `Coffer.Store.Sound.exists_snapshot` — **there is a snapshot of every store that is in order;**
* `Coffer.Store.perm_ids_of_snapshot`, `Coffer.Store.exists_row_of_snapshot` — its transactions are
  those of the store;
* `Coffer.Store.mem_tagsOf_iff` — its tags are those of the store.
-/

import Coffer.Proofs.Calendar.DateText
import Coffer.Proofs.Store.References
import Coffer.Store.Snapshot

set_option autoImplicit false

namespace Coffer

theorem PeriodKind.ofName?_name (k : PeriodKind) : ofName? k.name = some k := by
  cases k <;> decide +kernel

/-- An index of what a function gives for some ids. -/
theorem Index.get?_ofList_map {α : Type} (f : Int → α) (ids : List Int) (i : Int) :
    (ofList (ids.map fun j => (j, f j))).get? i = if i ∈ ids then some (f i) else none := by
  suffices ∀ m : Index α, ((ids.map fun j => (j, f j)).foldl (fun m e => m.put e.1 e.2) m).get? i =
      if i ∈ ids then some (f i) else m.get? i from this empty
  induction ids with
  | nil => simp
  | cons j rest ih =>
      intro m
      rw [List.map_cons, List.foldl_cons, ih, get?_put]
      by_cases hi : i ∈ rest
      · simp [hi]
      · by_cases hj : j = i
        · subst hj
          simp
        · simp [hi, hj, Ne.symm hj]

namespace Store

variable {s : Store} {n : Snapshot}

/-! ### Reading -/

theorem readTransaction_of_iso {r : TransactionRow} {d : Date} (h : r.date = d.iso) :
    readTransaction r =
      .ok ⟨⟨r.account, d, r.dateRaw, r.description, r.amount, r.category⟩, r.id⟩ := by
  have hread : DateLayout.iso.read r.date.toList = .ok d := by
    rw [h, Date.iso, String.toList_ofList]
    exact DateLayout.read_iso d
  unfold readTransaction
  rw [hread]

theorem of_readTransaction_eq_ok {r : TransactionRow} {t : Transaction}
    (h : readTransaction r = .ok t) : t.id = r.id ∧ t.category = r.category := by
  unfold readTransaction at h
  split at h
  · cases h
    exact ⟨rfl, rfl⟩
  · cases h

theorem of_readTarget_eq_ok {r : TargetRow} {g : Target} (h : readTarget r = .ok g) :
    g.id = r.id ∧ PeriodKind.ofName? r.period = some g.period := by
  unfold readTarget at h
  split at h
  · next k hk =>
      cases h
      exact ⟨rfl, hk⟩
  · cases h

/-- The records of transactions in a store that is in order can be read. -/
theorem Sound.exists_readTransaction (hs : s.Sound) {r : TransactionRow} (hr : r ∈ s.transactions) :
    ∃ t, readTransaction r = .ok t := by
  obtain ⟨d, hd⟩ := hs.dates r hr
  exact ⟨_, readTransaction_of_iso hd⟩

/-- **There is a snapshot of every store that is in order.** -/
theorem Sound.exists_snapshot (hs : s.Sound) : ∃ n, s.snapshot = .ok n := by
  obtain ⟨ts, hts⟩ : ∃ ts, s.listTransactions = .ok ts :=
    Except.exists_mapM_eq_ok fun r hr => hs.exists_readTransaction (List.mem_mergeSort.1 hr)
  obtain ⟨gs, hgs⟩ : ∃ gs, s.listTargets = .ok gs := by
    refine Except.exists_mapM_eq_ok fun g hg => ?_
    obtain ⟨k, hk⟩ := hs.periods g (List.mem_mergeSort.1 hg)
    refine ⟨⟨g.id, g.name, g.filter, k, g.amount⟩, ?_⟩
    unfold readTarget
    rw [hk, PeriodKind.ofName?_name]
  unfold snapshot
  rw [hts, hgs]
  exact ⟨_, rfl⟩

/-! ### Transactions -/

theorem listTransactions_of_snapshot (h : s.snapshot = .ok n) :
    s.listTransactions = .ok n.transactions := by
  obtain ⟨ts, hts, h⟩ := Except.of_bind_eq_ok h
  obtain ⟨gs, -, h⟩ := Except.of_bind_eq_ok h
  cases h
  cases hlist : s.listTransactions with
  | error e =>
      rw [hlist] at hts
      cases hts
  | ok ts' =>
      rw [hlist] at hts
      cases hts
      rfl

theorem map_transactions_of_snapshot {α : Type} {k : TransactionRow → α} {k' : Transaction → α}
    (hk : ∀ r t, readTransaction r = .ok t → k' t = k r) (h : s.snapshot = .ok n) :
    (n.transactions.map k').Perm (s.transactions.map k) := by
  rw [Except.map_eq_of_mapM_eq_ok hk (listTransactions_of_snapshot h)]
  exact (List.mergeSort_perm ..).map k

/-- The transactions of a snapshot are those of the store. -/
theorem perm_ids_of_snapshot (h : s.snapshot = .ok n) :
    (n.transactions.map Transaction.id).Perm (s.transactions.map TransactionRow.id) :=
  map_transactions_of_snapshot (fun _ _ hread => (of_readTransaction_eq_ok hread).1) h

/-- No two transactions of a snapshot have the same id. -/
theorem nodup_ids_of_snapshot (hs : s.Sound) (h : s.snapshot = .ok n) :
    (n.transactions.map Transaction.id).Nodup :=
  (perm_ids_of_snapshot h).nodup_iff.2 hs.transactions

/-- A transaction of a snapshot has the category that it has in the store. -/
theorem exists_row_of_snapshot (h : s.snapshot = .ok n) {t : Transaction}
    (ht : t ∈ n.transactions) :
    ∃ r ∈ s.transactions, r.id = t.id ∧ r.category = t.category := by
  have hperm : (n.transactions.map fun t => (t.id, t.category)).Perm
      (s.transactions.map fun r => (r.id, r.category)) := by
    refine map_transactions_of_snapshot (fun r t hread => ?_) h
    obtain ⟨hid, hcategory⟩ := of_readTransaction_eq_ok hread
    rw [hid, hcategory]
  have hmem : (t.id, t.category) ∈ s.transactions.map fun r => (r.id, r.category) :=
    hperm.mem_iff.1 (List.mem_map.2 ⟨t, ht, rfl⟩)
  obtain ⟨r, hr, heq⟩ := List.mem_map.1 hmem
  exact ⟨r, hr, congrArg Prod.fst heq, congrArg Prod.snd heq⟩

/-! ### Tags -/

theorem linkedTags_of_notMem {i : Int} (h : i ∉ s.links.map TagLink.transaction) :
    s.linkedTags i = [] := by
  have hnone : s.links.filter (·.transaction == i) = [] := by
    refine List.filter_eq_nil_iff.2 fun l hl hi => h ?_
    rw [← eq_of_beq hi]
    exact List.mem_map_of_mem hl
  rw [linkedTags, hnone, List.filterMap_nil, List.mergeSort_nil]

/-- The tags of a transaction in the map of tags. -/
theorem tagsOf_tagMap (s : Store) (i : Int) :
    s.tagMap.tagsOf i = (s.linkedTags i).map Prod.fst := by
  unfold TagMap.tagsOf tagMap
  rw [Index.get?_ofList_map]
  split
  · rfl
  · next hi =>
      rw [linkedTags_of_notMem fun hmem => hi (mem_ascending_iff.2 hmem)]
      rfl

/-- **The tags in a snapshot are those that the transaction carries.** -/
theorem mem_tagsOf_iff (hs : s.Sound) (h : s.snapshot = .ok n) {i g : Int} :
    g ∈ (n.tagMap.tagsOf i).map Tag.id ↔ s.isLinked i g = true := by
  have hmap : n.tagMap = s.tagMap := by
    obtain ⟨ts, -, h⟩ := Except.of_bind_eq_ok h
    obtain ⟨gs, -, h⟩ := Except.of_bind_eq_ok h
    cases h
    rfl
  rw [hmap, tagsOf_tagMap, isLinked, List.any_eq_true]
  simp only [linkedTags, List.mem_map, List.mem_mergeSort, List.mem_filterMap, List.mem_filter,
    Option.map_eq_some_iff, Bool.and_eq_true, beq_iff_eq]
  constructor
  · rintro ⟨t, ⟨e, ⟨l, ⟨hl, hi⟩, t', hfind, rfl⟩, rfl⟩, rfl⟩
    have hid : t'.id = l.tag := by simpa using List.find?_some hfind
    exact ⟨l, hl, hi, hid.symm⟩
  · rintro ⟨l, hl, hi, rfl⟩
    -- the tag that the link names is there
    obtain ⟨t, ht⟩ := Option.isSome_iff_exists.1
      (List.find?_isSome.2 (List.any_eq_true.1 (hs.links l hl).2))
    have hid : t.id = l.tag := by simpa using List.find?_some ht
    exact ⟨t, ⟨(t, l.source), ⟨l, ⟨hl, hi⟩, t, ht, rfl⟩, rfl⟩, hid⟩

end Store

end Coffer
