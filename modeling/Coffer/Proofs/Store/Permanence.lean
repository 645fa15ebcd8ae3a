/-
**Transactions and their tags are kept.**

Nothing is ever said of a transaction again but to which category it belongs, and which more tags it
carries.  Its category is the one that was given to it last, by a statement or by a change of a
rule.  Rows of transactions are rewritten in place and never deleted, and the table of tags on
transactions only grows, so that a tag stays and keeps its source.

Main definitions:

* `Coffer.Operation.categoriesGiven`, `Coffer.Store.categoriesGiven` — the categories that
  operations give to a transaction;
* `Coffer.Store.Shows` — what reading the store says of a transaction.

Main results:

* `Coffer.Store.row?_run` — the row of a transaction after a row of operations;
* `Coffer.Store.Changes.linksKept` — the table of tags on transactions only grows;
* `Coffer.Store.perm_linkedTags` — each tag link is read once;
* `Coffer.Store.transactions_kept` — **what has been entered is read back, is in every snapshot, and
  keeps its tags.**
-/

import Coffer.Proofs.Number.Order
import Coffer.Proofs.Store.FilterIds
import Coffer.Proofs.Store.Integrity
import Coffer.Proofs.Store.Loading

set_option autoImplicit false

namespace Coffer

/-! ### Categories that are given -/

/-- The category that a change gives to a transaction, if it gives one. -/
def Mutation.categoriesGiven (m : Mutation) (i : Int) : List (Option Int) :=
  match m.category with
  | some c => if m.transaction = i then [some c.after] else []
  | none => []

/-- The categories that an operation gives to a transaction, one after another, unless it is
refused. -/
def Operation.categoriesGiven (i : Int) : Operation → List (Option Int)
  | .categorize j c => if j = i then [c] else []
  | .writeMutations ms => ms.flatMap (·.categoriesGiven i)
  | _ => []

theorem TagSource.ofName?_name (source : TagSource) : ofName? source.name = some source := by
  cases source <;> decide +kernel

namespace Store

/-- The categories that a row of operations gives to a transaction; a refused operation gives
none. -/
def categoriesGiven (s : Store) (i : Int) : List Operation → List (Option Int)
  | [] => []
  | op :: rest =>
    match s.perform op with
    | .ok (_, s') => op.categoriesGiven i ++ s'.categoriesGiven i rest
    | .error _ => s.categoriesGiven i rest

/-- The category given last, or the one before if none is given. -/
def latest (before : Option Int) (given : List (Option Int)) : Option Int :=
  given.getLast?.getD before

variable {s s' : Store} {i : Int} {r : TransactionRow}

@[simp] theorem latest_nil (before : Option Int) : latest before [] = before := rfl

theorem latest_append (before : Option Int) (xs ys : List (Option Int)) :
    latest before (xs ++ ys) = latest (latest before xs) ys := by
  unfold latest
  rw [List.getLast?_append]
  cases ys.getLast? <;> rfl

/-! ### Rows -/

/-- The row of a transaction. -/
def row? (s : Store) (i : Int) : Option TransactionRow := s.transactions.find? (·.id == i)

/-- A row with the category that is given last. -/
def recategorized (r : TransactionRow) (categories : List (Option Int)) : TransactionRow :=
  { r with category := latest r.category categories }

theorem recategorized_append (r : TransactionRow) (xs ys : List (Option Int)) :
    recategorized r (xs ++ ys) = recategorized (recategorized r xs) ys := by
  unfold recategorized
  rw [latest_append]

theorem mem_of_row? (hr : s.row? i = some r) : r ∈ s.transactions := List.mem_of_find?_eq_some hr

theorem id_of_row? (hr : s.row? i = some r) : r.id = i := by
  unfold row? at hr
  simpa using List.find?_some hr

theorem hasTransaction_of_row? (hr : s.row? i = some r) : s.hasTransaction i = true :=
  List.any_eq_true.2 ⟨r, mem_of_row? hr, beq_iff_eq.2 (id_of_row? hr)⟩

theorem row?_categorize {j : Int} {c : Option Int} (hr : s.row? i = some r)
    (h : s.categorize j c = .ok s') :
    s'.row? i = some (recategorized r (if j = i then [c] else [])) := by
  unfold categorize at h
  split at h
  · obtain ⟨-, -, h⟩ := Except.of_bind_eq_ok h
    cases h
    have hsame : ((fun t : TransactionRow => t.id == i) ∘
        fun t => if t.id = j then { t with category := c } else t) = fun t => t.id == i := by
      funext t
      dsimp only [Function.comp]
      split <;> rfl
    show (s.transactions.map _).find? _ = _
    rw [List.find?_map, hsame]
    show (s.row? i).map _ = _
    rw [hr, Option.map_some]
    by_cases hj : j = i
    · rw [if_pos hj, if_pos (id_of_row? hr ▸ hj.symm)]
      rfl
    · rw [if_neg hj, if_neg (id_of_row? hr ▸ Ne.symm hj)]
      rfl
  · next hnone =>
      cases h
      have hj : j ≠ i := by
        rintro rfl
        exact hnone (hasTransaction_of_row? hr)
      rw [if_neg hj]
      exact hr

/-- An operation on other tables leaves the row. -/
theorem row?_sameBut {ts : List Table} (h : SameBut ts s s') (hts : .transactions ∉ ts) :
    s'.row? i = s.row? i :=
  congrArg (List.find? _) (h .transactions hts)

theorem row?_writeMutation {m : Mutation} (hr : s.row? i = some r)
    (h : s.writeMutation m = .ok s') :
    s'.row? i = some (recategorized r (m.categoriesGiven i)) := by
  obtain ⟨s₁, hcategory, htags⟩ := of_writeMutation_eq_ok h
  have hs₁ : s₁.row? i = some (recategorized r (m.categoriesGiven i)) := by
    unfold Mutation.categoriesGiven
    rcases hcategory with ⟨hnone, rfl⟩ | ⟨c, hsome, hset⟩
    · rw [hnone]
      exact hr
    · rw [hsome]
      exact row?_categorize hr hset
  -- tags leave the table of transactions alone
  refine Except.of_foldlM_eq_ok
    (P := fun s : Store => s.row? i = some (recategorized r (m.categoriesGiven i))) ?_ hs₁ htags
  intro t g t' ht hstep
  rwa [row?_sameBut (sameBut_attachTag hstep) (by simp)]

/-- Changes give their categories one after another. -/
theorem row?_writeMutations {ms : List Mutation} (hr : s.row? i = some r)
    (h : s.writeMutations ms = .ok s') :
    s'.row? i = some (recategorized r (ms.flatMap (·.categoriesGiven i))) := by
  unfold writeMutations at h
  induction ms generalizing s r with
  | nil =>
      cases h
      exact hr
  | cons m rest ih =>
      rw [List.foldlM_cons] at h
      obtain ⟨s₁, hs₁, h⟩ := Except.of_bind_eq_ok h
      rw [List.flatMap_cons, recategorized_append]
      exact ih (row?_writeMutation hr hs₁) h

/-- **The row of a transaction after an operation:** nothing but its category can be another one. -/
theorem row?_perform {op : Operation} {a : Answer} (hr : s.row? i = some r)
    (h : s.perform op = .ok (a, s')) :
    s'.row? i = some (recategorized r (op.categoriesGiven i)) := by
  have hother (hop : .transactions ∉ op.tables) : s'.row? i = some r := by
    rwa [row?_sameBut (sameBut_perform h) hop]
  cases op with
  | addTransaction p =>
      obtain ⟨y, hy, ⟨⟩⟩ := Except.of_map_eq_ok h
      obtain ⟨amount, -, hy⟩ := Except.of_bind_eq_ok hy
      obtain ⟨-, -, hy⟩ := Except.of_bind_eq_ok hy
      obtain ⟨-, -, hy⟩ := Except.of_bind_eq_ok hy
      cases hy
      exact find?_append_of_eq_some hr _
  | categorize j c =>
      obtain ⟨t, ht, ⟨⟩⟩ := Except.of_map_eq_ok h
      exact row?_categorize hr ht
  | writeMutations ms =>
      obtain ⟨t, ht, ⟨⟩⟩ := Except.of_map_eq_ok h
      exact row?_writeMutations hr ht
  | _ => exact hother (by simp [Operation.tables])

/-- **The row of a transaction after a row of operations.** -/
theorem row?_run (hr : s.row? i = some r) (ops : List Operation) :
    (s.run ops).row? i = some (recategorized r (s.categoriesGiven i ops)) := by
  induction ops generalizing s r with
  | nil => exact hr
  | cons op rest ih =>
      show ((s.after op).run rest).row? i = _
      cases h : s.perform op with
      | ok answer =>
          obtain ⟨a, s'⟩ := answer
          simp only [after, categoriesGiven, h, recategorized_append]
          exact ih (row?_perform hr h)
      | error e =>
          simp only [after, categoriesGiven, h]
          exact ih hr

/-- What is kept of an amount: zero if it is one of the two zeros. -/
theorem of_keepAmount_eq_ok {column : String} {x amount : Float}
    (h : keepAmount column x = .ok amount) :
    amount = if x == 0 then 0 else x := by
  unfold keepAmount at h
  split at h
  · cases h
  · split at h
    · next hzero =>
        cases h
        rw [if_pos hzero]
    · next hzero =>
        cases h
        rw [if_neg hzero]

/-- What is kept of an amount is equal to it, although one zero may stand for the other. -/
theorem beq_of_keepAmount {column : String} {x amount : Float}
    (h : keepAmount column x = .ok amount) :
    x.isNaN = false ∧ (amount == x) = true := by
  have hnumber : x.isNaN = false := by
    cases hnan : x.isNaN with
    | false => rfl
    | true =>
        rw [keepAmount_of_isNaN hnan] at h
        cases h
  refine ⟨hnumber, ?_⟩
  rw [of_keepAmount_eq_ok h]
  split
  · next hzero => exact Binary64.zero_beq hzero
  · exact Binary64.beq_self hnumber

/-- The row of a posting that has got an id. -/
def entered (i : Int) (p : Posting) : TransactionRow :=
  ⟨i, p.account, p.date.iso, p.dateRaw, p.description,
    if p.amount == 0 then 0 else p.amount, p.category⟩

theorem row?_of_addTransaction {p : Posting} (h : s.addTransaction p = .ok (i, s')) :
    s'.row? i = some (entered i p) := by
  obtain ⟨amount, hamount, h⟩ := Except.of_bind_eq_ok h
  obtain ⟨-, -, h⟩ := Except.of_bind_eq_ok h
  obtain ⟨-, -, h⟩ := Except.of_bind_eq_ok h
  cases h
  rw [entered, ← of_keepAmount_eq_ok hamount]
  exact find?_id_append_fresh TransactionRow.id rfl

/-! ### Links -/

/-- No link is deleted or rewritten, and no tag is. -/
structure LinksKept (s s' : Store) : Prop where
  links : s.links <+: s'.links
  tags : s.tags <+: s'.tags

theorem LinksKept.refl (s : Store) : LinksKept s s := ⟨List.prefix_rfl, List.prefix_rfl⟩

theorem Change.linksKept (h : Change s s') : LinksKept s s' := by
  cases h with
  | link i g source hnew htransaction htag => exact ⟨List.prefix_append .., List.prefix_rfl⟩
  | tag name color hnew => exact ⟨List.prefix_rfl, List.prefix_append ..⟩
  | _ => exact ⟨List.prefix_rfl, List.prefix_rfl⟩

/-- **The table of tags on transactions only grows.** -/
theorem Changes.linksKept (h : Changes s s') : LinksKept s s' :=
  h.keeps (P := LinksKept s)
    (fun hs hchange =>
      ⟨hs.links.trans hchange.linksKept.links, hs.tags.trans hchange.linksKept.tags⟩)
    (.refl s)

theorem LinksKept.isLinked (h : LinksKept s s') {g : Int} (hlinked : s.isLinked i g = true) :
    s'.isLinked i g = true := by
  obtain ⟨l, hl, hkey⟩ := List.any_eq_true.1 hlinked
  exact List.any_eq_true.2 ⟨l, h.links.subset hl, hkey⟩

/-! ### Reading tags -/

/-- The tags of a transaction are those of its links, with the source of the link. -/
theorem mem_tagsOf_iff_exists (hs : (s.tags.map Tag.id).Nodup) {g : Tag} {source : TagSource} :
    (g, source) ∈ s.tagsOf i ↔ g ∈ s.tags ∧ ∃ l ∈ s.links, l.transaction = i ∧ l.tag = g.id ∧
      (TagSource.ofName? l.source).getD .manual = source := by
  simp only [tagsOf, linkedTags, List.mem_map, List.mem_mergeSort, List.mem_filterMap,
    List.mem_filter, Option.map_eq_some_iff, beq_iff_eq, find?_id_eq_some_iff hs]
  constructor
  · rintro ⟨e, ⟨l, ⟨hl, hi⟩, g', ⟨hg, htag⟩, rfl⟩, heq⟩
    cases heq
    exact ⟨hg, l, hl, hi, htag.symm, rfl⟩
  · rintro ⟨hg, l, hl, hi, htag, rfl⟩
    exact ⟨(g, l.source), ⟨l, ⟨hl, hi⟩, g, ⟨hg, htag.symm⟩, rfl⟩, rfl⟩

/-- **Each tag link of a transaction is read once.** -/
theorem perm_linkedTags (hs : ∀ l ∈ s.links, s.hasTag l.tag = true) (i : Int) :
    ((s.linkedTags i).map fun e => e.1.id).Perm
      ((s.links.filter (·.transaction == i)).map TagLink.tag) := by
  have hread : ∀ l ∈ s.links.filter (·.transaction == i),
      ((s.tags.find? (·.id == l.tag)).map fun t => (t, l.source)).map (fun e => e.1.id) =
        some l.tag := by
    intro l hl
    obtain ⟨t, ht⟩ := Option.isSome_iff_exists.1
      (List.find?_isSome.2 (List.any_eq_true.1 (hs l (List.mem_filter.1 hl).1)))
    have hid : t.id = l.tag := by simpa using List.find?_some ht
    rw [ht]
    exact congrArg some hid
  refine ((List.mergeSort_perm _ _).map _).trans ?_
  rw [List.map_filterMap, List.filterMap_congr hread, List.filterMap_eq_map']

/-! ### Tags that are attached -/

theorem attachTag_cases {j g : Int} {source : TagSource} (h : s.attachTag j g source = .ok s') :
    (s.isLinked j g = true ∧ s' = s) ∨
      s.isLinked j g = false ∧ s' = { s with links := s.links ++ [⟨j, g, source.name⟩] } := by
  unfold attachTag at h
  split at h
  · next hlinked =>
      cases h
      exact .inl ⟨hlinked, rfl⟩
  · next hnew =>
      obtain ⟨-, -, h⟩ := Except.of_bind_eq_ok h
      obtain ⟨-, -, h⟩ := Except.of_bind_eq_ok h
      cases h
      exact .inr ⟨Bool.eq_false_iff.2 hnew, rfl⟩

theorem isLinked_of_attachTag {j g : Int} {source : TagSource}
    (h : s.attachTag j g source = .ok s') :
    s'.isLinked j g = true := by
  rcases attachTag_cases h with ⟨hlinked, rfl⟩ | ⟨-, rfl⟩
  · exact hlinked
  · simp [isLinked]

/-- The tags that a change adds are attached. -/
theorem isLinked_of_writeMutations {ms : List Mutation} {m : Mutation} (hm : m ∈ ms) {g : Int}
    (hg : g ∈ m.addedTags) (h : s.writeMutations ms = .ok s') :
    s'.isLinked m.transaction g = true := by
  refine Except.of_mem_foldlM_eq_ok (P := fun t : Store => t.isLinked m.transaction g = true)
    ?_ ?_ hm h
  · intro t m' t' ht hstep
    exact (changes_writeMutation hstep).linksKept.isLinked ht
  · intro t t' hstep
    obtain ⟨t₁, -, htags⟩ := of_writeMutation_eq_ok hstep
    refine Except.of_mem_foldlM_eq_ok (P := fun t : Store => t.isLinked m.transaction g = true)
      ?_ ?_ hg htags
    · intro u g' u' hu hattach
      exact (changes_attachTag hattach).linksKept.isLinked hu
    · intro u u' hattach
      exact isLinked_of_attachTag hattach

/-- A link that is new after changes of rules comes from a rule. -/
theorem source_of_writeMutations {ms : List Mutation} (h : s.writeMutations ms = .ok s') :
    ∀ l ∈ s'.links, l ∈ s.links ∨ l.source = TagSource.rule.name := by
  refine Except.of_foldlM_eq_ok
    (P := fun t : Store => ∀ l ∈ t.links, l ∈ s.links ∨ l.source = TagSource.rule.name) ?_
    (fun l hl => .inl hl) h
  intro t m t' ht hstep
  obtain ⟨t₁, hcategory, htags⟩ := of_writeMutation_eq_ok hstep
  have ht₁ : t₁.links = t.links := by
    rcases hcategory with ⟨-, rfl⟩ | ⟨c, -, hset⟩
    · rfl
    · exact sameBut_categorize hset .links (by simp)
  refine Except.of_foldlM_eq_ok
    (P := fun t : Store => ∀ l ∈ t.links, l ∈ s.links ∨ l.source = TagSource.rule.name) ?_
    (ht₁ ▸ ht) htags
  intro u g u' hu hattach
  rcases attachTag_cases hattach with ⟨-, rfl⟩ | ⟨-, rfl⟩
  · exact hu
  · exact forall_mem_enter hu (.inr rfl)

/-! ### Snapshots -/

/-- The one record with an id. -/
theorem filter_id_eq_singleton {α : Type} {id : α → Int} {xs : List α}
    (h : (xs.map id).Nodup) {x : α} (hx : x ∈ xs) : xs.filter (fun y => id y == id x) = [x] := by
  induction xs with
  | nil => cases hx
  | cons y rest ih =>
      obtain ⟨hy, hrest⟩ := List.nodup_cons.1 h
      rcases List.mem_cons.1 hx with rfl | hx
      · have hnone : rest.filter (fun y => id y == id x) = [] := by
          refine List.filter_eq_nil_iff.2 fun z hz hid => hy ?_
          rw [← eq_of_beq hid]
          exact List.mem_map_of_mem hz
        rw [List.filter_cons_of_pos (by simp), hnone]
      · have hne : id y ≠ id x := fun heq => hy (heq ▸ List.mem_map_of_mem hx)
        rw [List.filter_cons_of_neg (by simpa using hne), ih hrest hx]

/-- **What reading the store says of a transaction:** it is found by its id, it is in a snapshot
once, and there it has the tags of its links, each once. -/
structure Shows (s : Store) (t : Transaction) : Prop where
  read : s.transaction? t.id = .ok (some t)
  snapshot : ∃ n, s.snapshot = .ok n ∧
    n.transactions.filter (·.id == t.id) = [t] ∧
    n.tagMap.tagsOf t.id = (s.tagsOf t.id).map Prod.fst ∧
    (∀ g, g ∈ n.tagMap.tagsOf t.id ↔ g ∈ s.tags ∧ s.isLinked t.id g.id = true) ∧
    ((n.tagMap.tagsOf t.id).map Tag.id).Perm
      ((s.links.filter (·.transaction == t.id)).map TagLink.tag)

/-- A row whose date is the text of a date is read as it stands. -/
theorem shows_of_row? (hs : s.Sound) (hnamed : s.Named) {d : Date} (hr : s.row? i = some r)
    (hd : r.date = d.iso) :
    s.Shows ⟨⟨r.account, d, r.dateRaw, r.description, r.amount, r.category⟩, i⟩ := by
  obtain rfl := id_of_row? hr
  have hread := readTransaction_of_iso hd
  obtain ⟨n, hn⟩ := hs.exists_snapshot
  refine ⟨?_, n, hn, ?_, ?_, ?_, ?_⟩
  · unfold row? at hr
    unfold transaction?
    rw [hr]
    dsimp only
    rw [hread]
    rfl
  · have hids := nodup_ids_of_snapshot hs hn
    obtain ⟨t, ht, hrow⟩ := Except.exists_of_mapM_eq_ok (listTransactions_of_snapshot hn)
      (List.mem_mergeSort.2 (mem_of_row? hr))
    cases hread.symm.trans hrow
    exact filter_id_eq_singleton hids ht
  · rw [(catalog_of_snapshot hn).2, tagsOf_tagMap, tagsOf, List.map_map]
    rfl
  · intro g
    exact mem_tagsOf_snapshot_iff hnamed hn
  · rw [(catalog_of_snapshot hn).2, tagsOf_tagMap, List.map_map]
    exact perm_linkedTags (fun l hl => (hs.links l hl).2) _

/-! ### What is kept -/

theorem run_of_perform {op : Operation} {a : Answer} (h : s.perform op = .ok (a, s'))
    (ops : List Operation) : s.run (op :: ops) = s'.run ops := by
  show (s.after op).run ops = s'.run ops
  unfold after
  rw [h]

/-- A transaction that has been entered is read back after any operations. -/
theorem shows_of_addTransaction {history : List Operation} {p : Posting}
    (h : (run empty history).perform (.addTransaction p) = .ok (.id i, s))
    (later : List Operation) :
    (s.run later).Shows { p with
      amount := if p.amount == 0 then 0 else p.amount
      category := latest p.category (s.categoriesGiven i later)
      id := i } := by
  have hrun : s.run later = run empty (history ++ .addTransaction p :: later) := by
    rw [run_append, run_of_perform h]
  have hrow : (s.run later).row? i =
      some (recategorized (entered i p) (s.categoriesGiven i later)) := by
    obtain ⟨⟨j, t⟩, hadd, ⟨⟩⟩ := Except.of_map_eq_ok h
    exact row?_run (row?_of_addTransaction hadd) later
  rw [hrun] at hrow ⊢
  exact shows_of_row? (sound_run _) (named_run _) hrow rfl

/-- A tag of a transaction stays with its source, and nothing is said of it besides. -/
theorem tagsOf_run {history : List Operation} {e : Tag × TagSource}
    (he : e ∈ (run empty history).tagsOf i) (later : List Operation) :
    e ∈ ((run empty history).run later).tagsOf i ∧
      ∀ e' ∈ ((run empty history).run later).tagsOf i, e'.1.id = e.1.id → e' = e := by
  have hkept := (changes_run (run empty history) later).linksKept
  rw [← run_append] at hkept ⊢
  have htags := (named_run (history ++ later)).tagIds
  have hlater : e ∈ (run empty (history ++ later)).tagsOf i := by
    obtain ⟨hg, l, hl, hlink⟩ := (mem_tagsOf_iff_exists (named_run history).tagIds).1 he
    exact (mem_tagsOf_iff_exists htags).2 ⟨hkept.tags.subset hg, l, hkept.links.subset hl, hlink⟩
  refine ⟨hlater, ?_⟩
  rintro ⟨g', source'⟩ he' hid
  obtain ⟨hg, l, hl, hi, htag, hsource⟩ := (mem_tagsOf_iff_exists htags).1 hlater
  obtain ⟨hg', l', hl', hi', htag', hsource'⟩ := (mem_tagsOf_iff_exists htags).1 he'
  -- the tags are one tag, so that the links are one link
  have htagsame : g' = e.1 := List.inj_on_of_nodup_map htags hg' hg hid
  have hlinksame : l' = l := by
    refine List.inj_on_of_nodup_map (distinctKeys_run (history ++ later)).links hl' hl ?_
    rw [hi', hi, htag', htag, htagsame]
  rw [← hsource', hlinksame, hsource, htagsame]

/-- A link is read with its source. -/
theorem exists_mem_tagsOf (hs : s.Sound) (hnamed : s.Named) {l : TagLink} (hl : l ∈ s.links)
    {source : TagSource} (hsource : l.source = source.name) :
    ∃ t, t.id = l.tag ∧ (t, source) ∈ s.tagsOf l.transaction := by
  obtain ⟨t, ht, hid⟩ := List.any_eq_true.1 (hs.links l hl).2
  have hid : t.id = l.tag := eq_of_beq hid
  refine ⟨t, hid, (mem_tagsOf_iff_exists hnamed.tagIds).2 ⟨ht, l, hl, rfl, hid.symm, ?_⟩⟩
  rw [hsource, TagSource.ofName?_name]
  rfl

theorem sound_of_perform {history : List Operation} {op : Operation} {a : Answer}
    (h : (run empty history).perform op = .ok (a, s)) : s.Sound ∧ s.Named := by
  have hrun : s = run empty (history ++ [op]) := by
    rw [run_append, run_of_perform h]
    rfl
  rw [hrun]
  exact ⟨sound_run _, named_run _⟩

/-- To apply rules is to write what they change. -/
theorem of_apply_eq_ok {n : Snapshot} {scope : AccountScope} {a : Rules.Applied}
    (h : n.apply scope s = .ok (a, s')) :
    s.writeMutations (n.plan scope).mutations = .ok s' ∧ a = .ofPlan (n.plan scope) := by
  unfold Snapshot.apply Rules.carryOut at h
  cases hms : (n.plan scope).mutations with
  | nil =>
      simp only [hms] at h
      cases h
      exact ⟨rfl, rfl⟩
  | cons m rest =>
      simp only [hms] at h
      obtain ⟨answer, hwrite, h⟩ := Except.of_bind_eq_ok h
      obtain ⟨t, ht, rfl⟩ := Except.of_map_eq_ok hwrite
      cases h
      exact ⟨ht, rfl⟩

/-- What is written when the rules are applied is written by one operation. -/
theorem after_writeMutations_of_apply {n : Snapshot} {scope : AccountScope} {a : Rules.Applied}
    (h : n.apply scope s = .ok (a, s')) :
    s.after (.writeMutations (n.plan scope).mutations) = s' := by
  rw [after, perform, (of_apply_eq_ok h).1]
  rfl

/-- **What has been entered is kept.**  Take any store that operations have made, and then any row
of operations.

A transaction that was entered is read back as it was entered, zero for either of the two zeros,
with the category that was given to it last.  It is in the snapshot once, and has there the tags
that it carries.  A tag on a transaction stays on it and keeps its source, which is the one that it
was attached with, or a rule if a change of a rule has attached it.  To apply the rules is one of
the operations. -/
theorem transactions_kept (history : List Operation) :
    (∀ p i s, (run empty history).perform (.addTransaction p) = .ok (.id i, s) → ∀ later,
      (s.run later).Shows { p with
        amount := if p.amount == 0 then 0 else p.amount
        category := latest p.category (s.categoriesGiven i later)
        id := i }) ∧
    (∀ i e, e ∈ (run empty history).tagsOf i → ∀ later,
      e ∈ ((run empty history).run later).tagsOf i ∧
      ∀ e' ∈ ((run empty history).run later).tagsOf i, e'.1.id = e.1.id → e' = e) ∧
    (∀ i g source a s, (run empty history).perform (.attachTag i g source) = .ok (a, s) →
      (run empty history).isLinked i g = false → ∃ t, t.id = g ∧ (t, source) ∈ s.tagsOf i) ∧
    (∀ ms a s, (run empty history).perform (.writeMutations ms) = .ok (a, s) →
      ∀ m ∈ ms, ∀ g ∈ m.addedTags, (run empty history).isLinked m.transaction g = false →
        ∃ t, t.id = g ∧ (t, TagSource.rule) ∈ s.tagsOf m.transaction) ∧
    (∀ (n : Snapshot) scope a s, n.apply scope (run empty history) = .ok (a, s) →
      (run empty history).after (.writeMutations (n.plan scope).mutations) = s) := by
  refine ⟨?_, ?_, ?_, ?_, ?_⟩
  · intro p i s h later
    exact shows_of_addTransaction h later
  · intro i e he later
    exact tagsOf_run he later
  · intro i g source a s h hnew
    obtain ⟨hsound, hnamed⟩ := sound_of_perform h
    obtain ⟨t, hattach, ⟨⟩⟩ := Except.of_map_eq_ok h
    rcases attachTag_cases hattach with ⟨hlinked, -⟩ | ⟨-, hs⟩
    · rw [hnew] at hlinked
      cases hlinked
    · have hl : ⟨i, g, source.name⟩ ∈ s.links := by
        rw [hs]
        simp
      exact exists_mem_tagsOf hsound hnamed hl rfl
  · intro ms a s h m hm g hg hnew
    obtain ⟨hsound, hnamed⟩ := sound_of_perform h
    obtain ⟨t, hwrite, ⟨⟩⟩ := Except.of_map_eq_ok h
    obtain ⟨l, hl, hkey⟩ := List.any_eq_true.1 (isLinked_of_writeMutations hm hg hwrite)
    rw [Bool.and_eq_true, beq_iff_eq, beq_iff_eq] at hkey
    rw [← hkey.1, ← hkey.2]
    rcases source_of_writeMutations hwrite l hl with hold | hrule
    · have hlinked : (run empty history).isLinked m.transaction g = true :=
        List.any_eq_true.2 ⟨l, hold, by simp [hkey]⟩
      rw [hnew] at hlinked
      cases hlinked
    · exact exists_mem_tagsOf hsound hnamed hl hrule
  · intro n scope a s h
    exact after_writeMutations_of_apply h

/-- A store with a category and a tag. -/
def beforeIdes : List Operation :=
  [.ensureAccount "Card", .ensureCategory "Food" 0 none, .ensureTag "old" none]

/-- A posting dated before the common era, of an amount of negative zero. -/
def ides : Posting := ⟨some 1, ⟨-43, 3, 15, by decide⟩, some "Id. Mart.", "ROMA", -0.0, none⟩

/-- A category that is not there is refused. A rule gives another one and a tag, which is attached
by hand once more. -/
def afterIdes : List Operation :=
  [.categorize 1 (some 9), .writeMutations [⟨1, some ⟨none, 1⟩, [1]⟩], .attachTag 1 1 .manual]

theorem transactions_kept_ides :
    (run empty beforeIdes).perform (.addTransaction ides) =
      .ok (.id 1, (run empty beforeIdes).after (.addTransaction ides)) ∧
    (((run empty beforeIdes).after (.addTransaction ides)).run afterIdes).Shows
      ⟨⟨some 1, ⟨-43, 3, 15, by decide⟩, some "Id. Mart.", "ROMA", 0, some 1⟩, 1⟩ ∧
    ∃ t, t.id = 1 ∧ (t, TagSource.rule) ∈
      (((run empty beforeIdes).after (.addTransaction ides)).run afterIdes).tagsOf 1 := by
  have hadd : (run empty beforeIdes).perform (.addTransaction ides) =
      .ok (.id 1, (run empty beforeIdes).after (.addTransaction ides)) := rfl
  refine ⟨hadd, ?_, ?_⟩
  · exact (transactions_kept beforeIdes).1 ides 1 _ hadd afterIdes
  · obtain ⟨t, hid, ht⟩ := (transactions_kept (beforeIdes ++ [.addTransaction ides])).2.2.2.1
      [⟨1, some ⟨none, 1⟩, [1]⟩] _ _ rfl ⟨1, some ⟨none, 1⟩, [1]⟩ (by simp) 1 (by simp) rfl
    have hkept := (transactions_kept (beforeIdes ++ .addTransaction ides :: afterIdes.take 2)).2.1 1
      (t, .rule) ht [.attachTag 1 1 .manual]
    exact ⟨t, hid, hkept.1⟩

end Store

end Coffer
