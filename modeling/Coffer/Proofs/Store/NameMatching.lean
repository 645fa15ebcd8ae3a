/-
**Names in the store and names in filters.**

The store keeps the names of categories and of tags distinct up to the case of ASCII letters, and
looks them up like that.  A filter compares names by their full lower case.  A name that it is given
therefore selects whatever belongs to any record whose name has the same letters, and there may be
more than one such record: `É` and `é` are two names to the store and one to a filter.

So a name denotes its record for a filter exactly if no transaction has another record of the same
letters instead.  Names of ASCII characters always do, since for them the two comparisons agree.

Main definitions:

* `Coffer.Store.Named` — the invariant: categories and tags have ids and names of their own;
* `Coffer.Snapshot.selects` — whether a filter by the text of a field selects a transaction;
* `Coffer.Snapshot.Denotes` — the filter by a name selects what has something, and nothing else;
* `Coffer.Text.IsAscii` — a name without letters beyond ASCII.

Main results:

* `Coffer.Store.named_run` — the invariant holds after every row of operations;
* `Coffer.Store.selects_category_iff`, `Coffer.Store.selects_tag_iff` — what a filter by a name
  selects, in terms of the tables;
* `Coffer.Text.nameKey_eq_of_sameLetters` — the two comparisons agree on ASCII names;
* `Coffer.Store.denotes_iff` — **when a name denotes its record for a filter.**
-/

import Coffer.Filter.Matching
import Coffer.Proofs.Store.Loading
import Coffer.Proofs.Text.Lowercase

set_option autoImplicit false

namespace Coffer

/-! ### Comparing names -/

namespace Text

/-- A text without characters beyond ASCII. -/
def IsAscii (s : String) : Prop := ∀ c ∈ s.toList, c.toNat < 0x80

/-- The lower case of ASCII characters does not depend on their neighbours. -/
theorem lowercaseAfter_of_ascii {s : List Char} (h : ∀ c ∈ s, c.toNat < 0x80) (before : List Char) :
    lowercaseAfter before s = foldAscii s := by
  induction s generalizing before with
  | nil => rfl
  | cons c rest ih =>
      have hc : c.toNat < 0x80 := h c (by simp)
      have hdot : c ≠ 'İ' := by rintro rfl; exact absurd hc (by decide)
      have hsigma : c ≠ 'Σ' := by rintro rfl; exact absurd hc (by decide)
      rw [lowercaseAfter, lowerBetween, if_neg hdot, if_neg hsigma, lowerLetter, if_pos hc,
        ih fun d hd => h d (by simp [hd])]
      rfl

/-- Folded texts that are the same are so up to the first NUL character. -/
theorem foldAscii_takeWhile (s : List Char) :
    foldAscii (s.takeWhile (· != '\x00')) = (foldAscii s).takeWhile (· != '\x00') := by
  have hnul : ((· != '\x00') ∘ Char.toLower) = (· != '\x00') := by
    funext c
    have hiff : c.toLower = '\x00' ↔ c = '\x00' := toLower_eq_iff (by decide)
    exact Bool.eq_iff_iff.2 (by simp [hiff])
  rw [foldAscii, foldAscii, List.takeWhile_map, hnul]

theorem utf8ByteSize_of_ascii {s : List Char} (h : ∀ c ∈ s, c.toNat < 0x80) :
    (String.ofList s).utf8ByteSize = s.length := by
  induction s with
  | nil => rfl
  | cons c rest ih =>
      have hc : c.toNat < 0x80 := h c (by simp)
      have hsize : c.utf8Size = 1 :=
        Char.utf8Size_eq_one_iff.2 (UInt32.le_iff_toNat_le.2 (Nat.le_of_lt_succ hc))
      rw [String.ofList_cons, String.utf8ByteSize_append, String.utf8ByteSize_singleton, hsize,
        ih fun d hd => h d (by simp [hd]), List.length_cons, Nat.add_comm]

/-- **The two comparisons agree on ASCII names.** -/
theorem nameKey_eq_of_sameLetters {a b : String} (ha : IsAscii a) (hb : IsAscii b)
    (h : sameLetters a b = true) : nameKey a = nameKey b := by
  have hfold : foldAscii a.toList = foldAscii b.toList := by
    have hlower := eq_of_beq h
    unfold lowercaseChars at hlower
    rwa [lowercaseAfter_of_ascii ha, lowercaseAfter_of_ascii hb] at hlower
  have hsize : a.utf8ByteSize = b.utf8ByteSize := by
    have hlength := congrArg List.length hfold
    simp only [foldAscii, List.length_map] at hlength
    rw [← String.ofList_toList (s := a), ← String.ofList_toList (s := b), utf8ByteSize_of_ascii ha,
      utf8ByteSize_of_ascii hb, hlength]
  rw [nameKey, nameKey, foldAscii_takeWhile, foldAscii_takeWhile, hfold, hsize]

theorem sameLetters_refl (a : String) : sameLetters a a = true := by
  simp [sameLetters]

end Text

namespace Store

variable {s s' : Store} {n : Snapshot}

/-! ### The invariant -/

/-- **Categories and tags have ids and names of their own,** names being the same up to the case of
ASCII letters. -/
structure Named (s : Store) : Prop where
  categoryIds : (s.categories.map Category.id).Nodup
  categoryNames : (s.categories.map fun c => Text.nameKey c.name).Nodup
  tagIds : (s.tags.map Tag.id).Nodup
  tagNames : (s.tags.map fun g => Text.nameKey g.name).Nodup

theorem named_empty : Named empty where
  categoryIds := .nil
  categoryNames := .nil
  tagIds := .nil
  tagNames := .nil

/-- A name that is not found is a new one. -/
theorem nodup_names_append {α : Type} {name : α → String} {rows : List α} {x : α}
    (h : (rows.map fun y => Text.nameKey (name y)).Nodup)
    (hnew : rows.find? (fun y => Text.sameName (name y) (name x)) = none) :
    ((rows ++ [x]).map fun y => Text.nameKey (name y)).Nodup :=
  nodup_append_of_new h fun y hy heq =>
    List.find?_eq_none.1 hnew y hy (Text.sameName_iff.2 heq)

theorem Named.change (hs : s.Named) (h : Change s s') : s'.Named := by
  cases h with
  | category name sortOrder color hnew =>
      refine ⟨?_, nodup_names_append hs.categoryNames hnew, hs.tagIds, hs.tagNames⟩
      rw [List.map_append]
      exact nodup_append_freshId hs.categoryIds
  | tag name color hnew =>
      refine ⟨hs.categoryIds, hs.categoryNames, ?_, nodup_names_append hs.tagNames hnew⟩
      rw [List.map_append]
      exact nodup_append_freshId hs.tagIds
  | _ => exact ⟨hs.categoryIds, hs.categoryNames, hs.tagIds, hs.tagNames⟩

/-- **The invariant holds after every row of operations.** -/
theorem named_run (ops : List Operation) : (run empty ops).Named :=
  (changes_run empty ops).keeps Named.change named_empty

/-- Records of ASCII names with the same letters are the same record. -/
theorem eq_of_sameLetters {α : Type} {name : α → String} {rows : List α}
    (h : (rows.map fun y => Text.nameKey (name y)).Nodup)
    (hascii : ∀ y ∈ rows, Text.IsAscii (name y))
    {x y : α} (hx : x ∈ rows) (hy : y ∈ rows) (hsame : Text.sameLetters (name x) (name y) = true) :
    x = y :=
  List.inj_on_of_nodup_map h hx hy
    (Text.nameKey_eq_of_sameLetters (hascii x hx) (hascii y hy) hsame)

end Store

/-! ### Filters by a name -/

/-- A transaction of a snapshot with its names and tags. -/
def Snapshot.view (n : Snapshot) (t : Transaction) : View := n.catalog.view t (n.tagMap.tagsOf t.id)

/-- Whether a filter by the text of a field selects a transaction. -/
def Snapshot.selects (n : Snapshot) (f : Field) (text : String) (t : Transaction) : Bool :=
  (Filter.ofFieldText f text).selects (n.view t)

/-- A name denotes something for a filter if the filter selects what has it, and nothing else. -/
def Snapshot.Denotes (n : Snapshot) (f : Field) (name : String) (has : Transaction → Prop) : Prop :=
  ∀ t ∈ n.transactions, n.selects f name t = true ↔ has t

namespace Store

variable {s : Store} {n : Snapshot} {t : Transaction} {text : String}

theorem catalog_of_snapshot (h : s.snapshot = .ok n) :
    n.catalog = Catalog.ofRecords s.listCategories s.listAccounts s.listTags ∧
      n.tagMap = s.tagMap := by
  obtain ⟨ts, -, h⟩ := Except.of_bind_eq_ok h
  obtain ⟨gs, -, h⟩ := Except.of_bind_eq_ok h
  cases h
  exact ⟨rfl, rfl⟩

/-- A category of the catalog is one of the store. -/
theorem get?_categories_iff (hs : s.Named) (h : s.snapshot = .ok n) {i : Int} {c : Category} :
    n.catalog.categories.get? i = some c ↔ c ∈ s.categories ∧ c.id = i := by
  have hperm : s.listCategories.Perm s.categories := List.mergeSort_perm ..
  have hids : (s.listCategories.map Category.id).Nodup := (hperm.map _).nodup_iff.2 hs.categoryIds
  rw [(catalog_of_snapshot h).1, Catalog.ofRecords, Index.get?_ofRecords hids,
    find?_id_eq_some_iff hids, hperm.mem_iff]

/-- **What a filter by a category selects:** what belongs to a category of the same letters. -/
theorem selects_category_iff (hs : s.Named) (h : s.snapshot = .ok n) :
    n.selects .category text t = true ↔
      ∃ c ∈ s.categories, t.category = some c.id ∧ Text.sameLetters c.name text = true := by
  show ((t.category.bind fun i => (n.catalog.categories.get? i).map Category.name).any
    fun name => Text.sameLetters name text) = true ↔ _
  simp only [Option.any_eq_true, Option.bind_eq_some_iff, Option.map_eq_some_iff,
    get?_categories_iff hs h]
  constructor
  · rintro ⟨name, ⟨i, hi, c, ⟨hc, rfl⟩, rfl⟩, hname⟩
    exact ⟨c, hc, hi, hname⟩
  · rintro ⟨c, hc, hi, hname⟩
    exact ⟨c.name, ⟨c.id, hi, c, ⟨hc, rfl⟩, rfl⟩, hname⟩

/-- The tags of a transaction in a snapshot are the tags of the store that it carries. -/
theorem mem_tagsOf_snapshot_iff (hs : s.Named) (h : s.snapshot = .ok n) {i : Int} {g : Tag} :
    g ∈ n.tagMap.tagsOf i ↔ g ∈ s.tags ∧ s.isLinked i g.id = true := by
  rw [(catalog_of_snapshot h).2, tagsOf_tagMap, isLinked, List.any_eq_true]
  simp only [linkedTags, List.mem_map, List.mem_mergeSort, List.mem_filterMap, List.mem_filter,
    Option.map_eq_some_iff, Bool.and_eq_true, beq_iff_eq, find?_id_eq_some_iff hs.tagIds]
  constructor
  · rintro ⟨e, ⟨l, ⟨hl, hi⟩, g', ⟨hg, htag⟩, rfl⟩, rfl⟩
    exact ⟨hg, l, hl, hi, htag.symm⟩
  · rintro ⟨hg, l, hl, hi, htag⟩
    exact ⟨(g, l.source), ⟨l, ⟨hl, hi⟩, g, ⟨hg, htag.symm⟩, rfl⟩, rfl⟩

/-- **What a filter by a tag selects:** what carries a tag of the same letters. -/
theorem selects_tag_iff (hs : s.Named) (h : s.snapshot = .ok n) :
    n.selects .tag text t = true ↔
      ∃ g ∈ s.tags, s.isLinked t.id g.id = true ∧ Text.sameLetters g.name text = true := by
  show ((n.tagMap.tagsOf t.id).any fun g => Text.sameLetters g.name text) = true ↔ _
  simp only [List.any_eq_true, mem_tagsOf_snapshot_iff hs h, and_assoc]

/-! ### What a name denotes -/

/-- If what a filter by the name of a record selects has a record of the same letters, then the name
denotes the record exactly if all that has one of the same letters has this one. -/
theorem denotes_iff_of_selects {α : Type} {rows : List α} {name : α → String}
    (has : Transaction → α → Prop) {f : Field} {x : α} (hx : x ∈ rows)
    (hselects : ∀ t, n.selects f (name x) t = true ↔
      ∃ y ∈ rows, has t y ∧ Text.sameLetters (name y) (name x) = true) :
    n.Denotes f (name x) (has · x) ↔
      ∀ y ∈ rows, Text.sameLetters (name y) (name x) = true →
        ∀ t ∈ n.transactions, has t y → has t x := by
  constructor
  · intro h y hy hsame t ht hhas
    exact (h t ht).1 ((hselects t).2 ⟨y, hy, hhas, hsame⟩)
  · intro h t ht
    refine ⟨fun hsel => ?_, fun hhas => (hselects t).2 ⟨x, hx, hhas, Text.sameLetters_refl _⟩⟩
    obtain ⟨y, hy, hhas, hsame⟩ := (hselects t).1 hsel
    exact h y hy hsame t ht hhas

theorem denotes_category_iff (hs : s.Named) (h : s.snapshot = .ok n) {c : Category}
    (hc : c ∈ s.categories) :
    n.Denotes .category c.name (·.category = some c.id) ↔
      ∀ c' ∈ s.categories, Text.sameLetters c'.name c.name = true →
        ∀ t ∈ n.transactions, t.category = some c'.id → t.category = some c.id :=
  denotes_iff_of_selects (fun t c => t.category = some c.id) hc fun _ => selects_category_iff hs h

theorem denotes_tag_iff (hs : s.Named) (h : s.snapshot = .ok n) {g : Tag} (hg : g ∈ s.tags) :
    n.Denotes .tag g.name (s.isLinked ·.id g.id = true) ↔
      ∀ g' ∈ s.tags, Text.sameLetters g'.name g.name = true →
        ∀ t ∈ n.transactions, s.isLinked t.id g'.id = true → s.isLinked t.id g.id = true :=
  denotes_iff_of_selects (fun t g => s.isLinked t.id g.id = true) hg fun _ => selects_tag_iff hs h

/-- **When a name denotes its record for a filter.** What has the record is always selected; nothing
else is exactly if all that has a record of the same letters has this one, and so it is if the names
are ASCII. -/
theorem denotes_iff (ops : List Operation) :
    ∃ n, (run empty ops).snapshot = .ok n ∧
      (∀ c ∈ (run empty ops).categories,
        (∀ t ∈ n.transactions, t.category = some c.id → n.selects .category c.name t = true) ∧
        (n.Denotes .category c.name (·.category = some c.id) ↔
          ∀ c' ∈ (run empty ops).categories, Text.sameLetters c'.name c.name = true →
            ∀ t ∈ n.transactions, t.category = some c'.id → t.category = some c.id) ∧
        ((∀ c' ∈ (run empty ops).categories, Text.IsAscii c'.name) →
          n.Denotes .category c.name (·.category = some c.id))) ∧
      ∀ g ∈ (run empty ops).tags,
        (∀ t ∈ n.transactions, (run empty ops).isLinked t.id g.id = true →
          n.selects .tag g.name t = true) ∧
        (n.Denotes .tag g.name ((run empty ops).isLinked ·.id g.id = true) ↔
          ∀ g' ∈ (run empty ops).tags, Text.sameLetters g'.name g.name = true →
            ∀ t ∈ n.transactions, (run empty ops).isLinked t.id g'.id = true →
              (run empty ops).isLinked t.id g.id = true) ∧
        ((∀ g' ∈ (run empty ops).tags, Text.IsAscii g'.name) →
          n.Denotes .tag g.name ((run empty ops).isLinked ·.id g.id = true)) := by
  have hs := named_run ops
  obtain ⟨n, hn⟩ := (sound_run ops).exists_snapshot
  refine ⟨n, hn, fun c hc => ⟨fun t _ hown => ?_, denotes_category_iff hs hn hc, fun hascii => ?_⟩,
    fun g hg => ⟨fun t _ hown => ?_, denotes_tag_iff hs hn hg, fun hascii => ?_⟩⟩
  · exact (selects_category_iff hs hn).2 ⟨c, hc, hown, Text.sameLetters_refl _⟩
  · refine (denotes_category_iff hs hn hc).2 fun c' hc' hsame t _ hother => ?_
    rwa [← eq_of_sameLetters hs.categoryNames hascii hc' hc hsame]
  · exact (selects_tag_iff hs hn).2 ⟨g, hg, hown, Text.sameLetters_refl _⟩
  · refine (denotes_tag_iff hs hn hg).2 fun g' hg' hsame t _ hother => ?_
    rwa [← eq_of_sameLetters hs.tagNames hascii hg' hg hsame]

/-- A transaction of the second of two categories whose names differ in the case of one letter
beyond ASCII. -/
def twoAccents : List Operation :=
  [.ensureCategory "É" 0 none, .ensureCategory "é" 1 none,
    .addTransaction ⟨none, ⟨2024, 1, 9, by decide⟩, none, "TEA", -3, some 2⟩]

/-- Two names of the store can be one name to a filter: the name of the first category selects what
belongs to the second. -/
theorem selects_twoAccents :
    ⟨1, "É", 0, none⟩ ∈ (run empty twoAccents).categories ∧
      ∃ n, (run empty twoAccents).snapshot = .ok n ∧
        ∃ t ∈ n.transactions, n.selects .category "É" t = true ∧ t.category ≠ some 1 := by
  have hcategories : (run empty twoAccents).categories =
      [⟨1, "É", 0, none⟩, ⟨2, "é", 1, none⟩] := by
    decide
  have hrows : (run empty twoAccents).transactions.map TransactionRow.category = [some 2] := by
    decide
  obtain ⟨n, hn⟩ := (sound_run twoAccents).exists_snapshot
  obtain ⟨t, ht, hcategory⟩ : ∃ t ∈ n.transactions, t.category = some 2 := by
    have hperm : (n.transactions.map fun t => t.category).Perm
        ((run empty twoAccents).transactions.map TransactionRow.category) :=
      map_transactions_of_snapshot (fun _ _ hread => (of_readTransaction_eq_ok hread).2) hn
    rw [hrows] at hperm
    exact List.mem_map.1 (hperm.mem_iff.2 (by simp))
  refine ⟨by simp [hcategories], n, hn, t, ht, ?_, by simp [hcategory]⟩
  exact (selects_category_iff (named_run twoAccents) hn).2
    ⟨⟨2, "é", 1, none⟩, by simp [hcategories], hcategory, by decide⟩

end Store

end Coffer
