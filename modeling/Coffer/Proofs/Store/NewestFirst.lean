/-
**Transactions, the newest first.**

Transactions are listed by the texts of their dates, the greatest text first, and those of one date
by descending id.  Every transaction is listed once.  The order is that of the calendar, the newest
transaction first, if the years of the dates come in their order as texts, and only then; years of
four digits without a sign always do.

Main definitions:

* `Coffer.Transaction.ListedBefore` — the order in which transactions are listed;
* `Coffer.Transaction.NewerThan` — the order of the calendar, and of ids within a date;
* `Coffer.YearsInOrder` — the years of the dates come in their order as texts;
* `Coffer.ShowsNewest` — the first transactions of a list, however many, are the newest.

Main results:

* `Coffer.Store.newestFirst_iff` — how two records are ordered;
* `Coffer.Store.pairwise_listedBefore` — **the order of a snapshot;**
* `Coffer.showsNewest_iff` — **where it is the order of the calendar.**
-/

import Coffer.Proofs.Calendar.DateOrder
import Coffer.Proofs.Store.Loading
import Coffer.Store.DateCell
import Mathlib.Data.List.Pairwise

set_option autoImplicit false

namespace Coffer

/-! ### The order of the column -/

namespace DateCell

theorem le_total (a b : DateCell) : (le a b || le b a) = true := by
  cases a <;> cases b <;> simp [le, Int.le_total, String.le_total]

theorem le_trans {a b c : DateCell} (hab : le a b = true) (hbc : le b c = true) :
    le a c = true := by
  cases a <;> cases b <;> cases c <;> simp [le] at hab hbc ⊢
  case text.text.text => exact String.le_trans hab hbc
  all_goals exact Int.le_trans hab hbc

end DateCell

namespace Store

variable {α : Type} {first second : α → α → Bool}

theorem thenBy_total (hfirst : ∀ a b, (first a b || first b a) = true)
    (hsecond : ∀ a b, (second a b || second b a) = true) (a b : α) :
    (thenBy first second a b || thenBy first second b a) = true := by
  have h := hfirst a b
  have h' := hsecond a b
  unfold thenBy
  grind

theorem thenBy_trans (hfirst : ∀ a b c, first a b = true → first b c = true → first a c = true)
    (hsecond : ∀ a b c, second a b = true → second b c = true → second a c = true) (a b c : α)
    (hab : thenBy first second a b = true) (hbc : thenBy first second b c = true) :
    thenBy first second a c = true := by
  unfold thenBy at *
  grind

theorem newestFirst_total (r r' : TransactionRow) :
    (newestFirst r r' || newestFirst r' r) = true := by
  have hdate (a b : TransactionRow) : (descending byDate a b || descending byDate b a) = true := by
    simp only [descending, byDate, DateCell.le_total]
  have hid (a b : TransactionRow) : (descending (byInt TransactionRow.id) a b ||
      descending (byInt TransactionRow.id) b a) = true := by
    simp only [descending, byInt, Bool.or_eq_true, decide_eq_true_eq]
    exact Int.le_total _ _
  exact thenBy_total hdate hid r r'

theorem newestFirst_trans (r r' r'' : TransactionRow) (h : newestFirst r r' = true)
    (h' : newestFirst r' r'' = true) : newestFirst r r'' = true := by
  have hdate (a b c : TransactionRow) (hab : descending byDate a b = true)
      (hbc : descending byDate b c = true) : descending byDate a c = true := by
    unfold descending byDate at *
    exact DateCell.le_trans hbc hab
  have hid (a b c : TransactionRow) (hab : descending (byInt TransactionRow.id) a b = true)
      (hbc : descending (byInt TransactionRow.id) b c = true) :
      descending (byInt TransactionRow.id) a c = true := by
    simp only [descending, byInt, decide_eq_true_eq] at hab hbc ⊢
    exact Int.le_trans hbc hab
  exact thenBy_trans hdate hid r r' r'' h h'

/-- **How two records with dates are ordered:** by the texts of the dates, then by id. -/
theorem newestFirst_iff {r r' : TransactionRow} {d d' : Date} (hr : r.date = d.iso)
    (hr' : r'.date = d'.iso) :
    newestFirst r r' = true ↔ d'.iso < d.iso ∨ d' = d ∧ r'.id ≤ r.id := by
  have hcell (a b : TransactionRow) (x y : Date) (ha : a.date = x.iso) (hb : b.date = y.iso) :
      byDate a b = true ↔ x.iso ≤ y.iso := by
    rw [byDate, ha, hb, DateCell.ofText_iso, DateCell.ofText_iso, DateCell.le, decide_eq_true_eq]
  have hthen : newestFirst r r' = true ↔
      byDate r' r = true ∧ (¬ byDate r r' = true ∨ r'.id ≤ r.id) := by
    simp [newestFirst, thenBy, descending, byInt]
  rw [hthen, hcell r' r d' d hr' hr, hcell r r' d d' hr hr', String.not_le]
  constructor
  · rintro ⟨hle, hlt | hid⟩
    · exact .inl hlt
    by_cases hlt : d'.iso < d.iso
    · exact .inl hlt
    · exact .inr ⟨Date.iso_injective (String.le_antisymm hle (String.not_lt.1 hlt)), hid⟩
  · rintro (hlt | ⟨rfl, hid⟩)
    · exact ⟨String.not_lt.1 (String.lt_asymm hlt), .inl hlt⟩
    · exact ⟨String.le_refl _, .inr hid⟩

end Store

/-! ### Orders of transactions -/

namespace Transaction

/-- One transaction is listed before another: the text of its date is greater, or the dates are the
same and its id is. -/
def ListedBefore (t u : Transaction) : Prop :=
  u.date.iso < t.date.iso ∨ u.date = t.date ∧ u.id < t.id

/-- One transaction is newer than another: its date is later, or the dates are the same and its id
is greater. -/
def NewerThan (t u : Transaction) : Prop := u.date < t.date ∨ u.date = t.date ∧ u.id < t.id

instance (t u : Transaction) : Decidable (NewerThan t u) :=
  inferInstanceAs (Decidable (_ ∨ _))

end Transaction

namespace Date

variable {d e : Date}

/-- The years of two dates, if they differ, come in their order as texts. -/
def YearsAgree (d e : Date) : Prop :=
  (d.year < e.year → WrittenBefore d.year e.year) ∧ (e.year < d.year → WrittenBefore e.year d.year)

theorem YearsAgree.symm (h : d.YearsAgree e) : e.YearsAgree d := And.symm h

theorem yearsAgree_of_year_eq (h : d.year = e.year) : d.YearsAgree e :=
  ⟨fun hlt => absurd hlt (by omega), fun hlt => absurd hlt (by omega)⟩

/-- A date whose text is smaller is earlier exactly if the years agree. -/
theorem lt_iff_yearsAgree (h : d.iso < e.iso) : d < e ↔ d.YearsAgree e := by
  rcases iso_lt_iff.1 h with hbefore | ⟨hsame, hlt⟩
  · constructor
    · intro hlt
      have hyear := year_le_of_lt hlt
      exact ⟨fun _ => hbefore, fun hback => absurd hback (by omega)⟩
    · rintro ⟨-, hback⟩
      refine lt_of_year_lt (Int.lt_iff_le_and_ne.2 ⟨Int.not_lt.1 fun hyear => ?_, ?_⟩)
      · exact hbefore.asymm (hback hyear)
      · intro hsame
        rw [hsame] at hbefore
        exact hbefore.asymm hbefore
  · exact iff_of_true hlt (yearsAgree_of_year_eq hsame)

end Date

/-- The years of the dates of transactions come in their order as texts. -/
def YearsInOrder (ts : List Transaction) : Prop :=
  ∀ t ∈ ts, ∀ u ∈ ts, t.date.year < u.date.year → Date.WrittenBefore t.date.year u.date.year

/-- The first transactions of a list, however many, are newer than the others. -/
def ShowsNewest (ts : List Transaction) : Prop :=
  ∀ limit, ∀ t ∈ ts.take limit, ∀ u ∈ ts.drop limit, t.NewerThan u

section Lists

variable {t u : Transaction} {ts : List Transaction}

theorem Transaction.ListedBefore.newerThan_iff (h : t.ListedBefore u) :
    t.NewerThan u ↔ u.date.YearsAgree t.date := by
  rcases h with hlt | ⟨hsame, hid⟩
  · rw [← Date.lt_iff_yearsAgree hlt]
    refine ⟨?_, .inl⟩
    rintro (hlater | ⟨hsame, -⟩)
    · exact hlater
    · rw [hsame] at hlt
      exact absurd hlt (String.lt_irrefl _)
  · exact iff_of_true (.inr ⟨hsame, hid⟩) (Date.yearsAgree_of_year_eq (congrArg Date.year hsame))

theorem yearsInOrder_iff_pairwise :
    YearsInOrder ts ↔ ts.Pairwise fun t u => u.date.YearsAgree t.date := by
  constructor
  · intro h
    exact List.pairwise_of_forall_mem_list fun t ht u hu => ⟨h u hu t ht, h t ht u hu⟩
  · intro h t ht u hu hlt
    have : Std.Symm fun t u : Transaction => u.date.YearsAgree t.date := ⟨fun _ _ h => h.symm⟩
    have hne : u ≠ t := by
      rintro rfl
      exact Int.lt_irrefl _ hlt
    exact (h.forall hu ht hne).1 hlt

/-- What is in order is in order however it is cut in two. -/
theorem pairwise_iff_take_drop {α : Type} {R : α → α → Prop} {xs : List α} :
    xs.Pairwise R ↔ ∀ k, ∀ a ∈ xs.take k, ∀ b ∈ xs.drop k, R a b := by
  constructor
  · intro h k
    rw [← List.take_append_drop k xs] at h
    exact (List.pairwise_append.1 h).2.2
  · intro h
    induction xs with
    | nil => exact .nil
    | cons x rest ih =>
        refine .cons (h 1 x (by simp)) (ih fun k a ha b hb => ?_)
        exact h (k + 1) a (by simp [ha]) b hb

/-- **The first of some transactions that are listed are the newest of them** exactly if the years
of their dates come in their order as texts. -/
theorem showsNewest_iff (h : ts.Pairwise Transaction.ListedBefore) :
    (ts.Pairwise Transaction.NewerThan ↔ YearsInOrder ts) ∧ (ShowsNewest ts ↔ YearsInOrder ts) := by
  have hnewer : ts.Pairwise Transaction.NewerThan ↔ YearsInOrder ts := by
    rw [yearsInOrder_iff_pairwise]
    exact ⟨fun h' => h.imp₂ (fun _ _ hl => hl.newerThan_iff.1) h',
      fun h' => h.imp₂ (fun _ _ hl => hl.newerThan_iff.2) h'⟩
  exact ⟨hnewer, pairwise_iff_take_drop.symm.trans hnewer⟩

/-- Years of four digits without a sign come in their order as texts. -/
theorem yearsInOrder_of_four_digits (h : ∀ t ∈ ts, 0 ≤ t.date.year ∧ t.date.year ≤ 9999) :
    YearsInOrder ts :=
  fun _ _ u hu hlt => (Date.writtenBefore_iff_of_lt hlt).2 (.inl (h u hu))

end Lists

namespace Store

variable {s : Store} {n : Snapshot}

/-- Records that stand in order are listed as they stand. -/
theorem listTransactions_of_pairwise (h : s.transactions.Pairwise (newestFirst · ·)) :
    s.listTransactions = s.transactions.mapM readTransaction := by
  rw [listTransactions, List.mergeSort_of_pairwise h]

/-- The transactions of a snapshot are the records of the store as they are read. -/
theorem exists_perm_of_snapshot (hs : s.Sound) (hn : s.snapshot = .ok n) :
    ∃ us, s.transactions.mapM readTransaction = .ok us ∧ n.transactions.Perm us := by
  obtain ⟨us, hus⟩ := Except.exists_mapM_eq_ok fun _ => hs.exists_readTransaction
  refine ⟨us, hus, ?_⟩
  rw [Except.eq_filterMap_of_mapM_eq_ok (listTransactions_of_snapshot hn),
    Except.eq_filterMap_of_mapM_eq_ok hus]
  exact (List.mergeSort_perm ..).filterMap _

/-- **The transactions of a snapshot are listed by the texts of their dates,** and in one date by
id. -/
theorem pairwise_listedBefore (hs : s.Sound) (hn : s.snapshot = .ok n) :
    n.transactions.Pairwise Transaction.ListedBefore := by
  have hsorted : (s.transactions.mergeSort newestFirst).Pairwise (newestFirst · ·) :=
    List.pairwise_mergeSort newestFirst_trans newestFirst_total _
  have hread : n.transactions.Pairwise fun t u =>
      u.date.iso < t.date.iso ∨ u.date = t.date ∧ u.id ≤ t.id := by
    rw [Except.eq_filterMap_of_mapM_eq_ok (listTransactions_of_snapshot hn),
      List.pairwise_filterMap]
    refine hsorted.imp_of_mem fun hr hr' hle t ht u hu => ?_
    obtain ⟨d, hd⟩ := hs.dates _ (List.mem_mergeSort.1 hr)
    obtain ⟨d', hd'⟩ := hs.dates _ (List.mem_mergeSort.1 hr')
    rw [readTransaction_of_iso hd] at ht
    rw [readTransaction_of_iso hd'] at hu
    cases ht
    cases hu
    exact (newestFirst_iff hd hd').1 hle
  have hids : n.transactions.Pairwise fun t u => t.id ≠ u.id :=
    List.pairwise_map.1 (nodup_ids_of_snapshot hs hn)
  refine hread.imp₂ (fun t u h hne => ?_) hids
  rcases h with hlt | ⟨hdate, hid⟩
  · exact .inl hlt
  · exact .inr ⟨hdate, Int.lt_iff_le_and_ne.2 ⟨hid, hne.symm⟩⟩

end Store

end Coffer
