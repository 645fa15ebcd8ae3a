/-
**The newest transactions are shown.**

A listing shows the first of the transactions that are found, at most so many.  They are found in
the order in which the store lists them, so that they are the newest of them if the years of their
dates come in their order as texts, and only then.

Main definitions:

* `Coffer.Command.listing`, `Coffer.Command.searchReport` — what is printed of the transactions that
  are shown.

Main results:

* `Coffer.Command.perform_listTransactions`, `Coffer.Command.perform_searchFilter` — a listing shows
  the first of the transactions that are found;
* `Coffer.Command.lists_newest_first` — **transactions are listed once each, and the newest first
  exactly if the years of their dates come in their order as texts.**
-/

import Coffer.Proofs.Command.Lookups
import Coffer.Proofs.Store.NewestFirst

set_option autoImplicit false

namespace Coffer.Command

variable {s : Store} {n : Snapshot} {w : Bool}

/-! ### What is shown -/

/-- What is printed of the transactions of a listing. -/
def listing (style : Style) (n : Snapshot) (filter : Option String)
    (shown : List Transaction) : String :=
  if style.json then document (.list (shown.map Transaction.document))
  else if shown.isEmpty then lines (noTransactions filter)
  else lines (["", "📝 Recent Transactions", longStroke] ++
    shown.map (transactionLine style n.catalog))

theorem outcome_snapshot (hn : s.snapshot = .ok n) :
    Steps.outcome (snapshot.run w) s = (.ok n, s) := by
  rw [snapshot, Action.outcome_consult, hn]

/-- **A listing shows the first of the transactions that are found,** and leaves the store as it
is. -/
theorem perform_listTransactions (hn : s.snapshot = .ok n) (c : Setting) (filter : Option String)
    (limit : Nat) :
    perform c (.listTransactions filter limit) w s =
      (.ok (listing c.style n filter ((found n filter).take limit)), s) := by
  rw [perform_eq_outcome]
  refine (Steps.outcome_bind_of_ok (outcome_snapshot hn)).trans ?_
  unfold listing
  dsimp only
  split
  · rfl
  split <;> rfl

/-- What is printed of a search. -/
def searchReport (style : Style) (n : Snapshot) (hits : List Transaction) (limit : Nat) : String :=
  let shown := hits.take limit
  let more := if hits.length > shown.length then
      ["   ... " ++ toString (hits.length - shown.length) ++ " more (raise --limit to see them)"]
    else []
  if style.json then document (.list (shown.map Transaction.document))
  else lines (["", "🔍 " ++ toString hits.length ++ " matching transactions", longStroke]
    ++ shown.map (transactionLine style n.catalog) ++ more)

/-- **A search shows the first of the transactions that match** in the scope of the accounts that
are named, and leaves the store as it is. -/
theorem perform_searchFilter (hn : s.snapshot = .ok n) (c : Setting) (expression : String)
    {accounts : List String} {inScope : AccountScope}
    (hscope : s.scopeOf (if accounts.isEmpty then c.style.settings.accounts else accounts) =
      .ok inScope)
    (limit : Nat) :
    perform c (.searchFilter expression accounts limit) w s =
      (.ok (searchReport c.style n (n.search inScope expression) limit), s) := by
  have hnames : Steps.outcome ((scope c.style.settings.accounts accounts).run w) s =
      (.ok inScope, s) := by
    rw [scope, Action.outcome_consultFor, hscope]
  rw [perform_eq_outcome]
  refine (Steps.outcome_bind_of_ok hnames).trans
    ((Steps.outcome_bind_of_ok (outcome_snapshot hn)).trans ?_)
  unfold searchReport
  dsimp only
  split <;> rfl

/-- What is found is listed in the order of the store. -/
theorem found_sublist (n : Snapshot) (filter : Option String) :
    (found n filter).Sublist n.transactions := by
  cases filter with
  | none => exact .refl _
  | some expression => exact List.filter_sublist

/-- **Transactions are listed once each,** by the texts of their dates and by descending id within a
date, which is the newest first exactly if the years of the dates come in their order as texts.  A
listing or a search with a limit shows the first of what it finds, which are the newest, whatever
the limit, exactly if the years of what it finds come in that order. -/
theorem lists_newest_first (ops : List Operation) :
    ∃ n, (Store.empty.run ops).snapshot = .ok n ∧
      (Store.empty.run ops).listTransactions = .ok n.transactions ∧
      (∃ ts, (Store.empty.run ops).transactions.mapM Store.readTransaction = .ok ts ∧
        n.transactions.Perm ts) ∧
      (n.transactions.map Transaction.id).Nodup ∧
      n.transactions.Pairwise Transaction.ListedBefore ∧
      (n.transactions.Pairwise Transaction.NewerThan ↔ YearsInOrder n.transactions) ∧
      (∀ c filter, (∀ limit w, perform c (.listTransactions filter limit) w (Store.empty.run ops) =
          (.ok (listing c.style n filter ((found n filter).take limit)), Store.empty.run ops)) ∧
        (ShowsNewest (found n filter) ↔ YearsInOrder (found n filter))) ∧
      ∀ c expression accounts inScope,
        (Store.empty.run ops).scopeOf
          (if accounts.isEmpty then c.style.settings.accounts else accounts) = .ok inScope →
        (∀ limit w, perform c (.searchFilter expression accounts limit) w (Store.empty.run ops) =
          (.ok (searchReport c.style n (n.search inScope expression) limit), Store.empty.run ops)) ∧
        (ShowsNewest (n.search inScope expression) ↔
          YearsInOrder (n.search inScope expression)) := by
  have hs := Store.sound_run ops
  obtain ⟨n, hn⟩ := hs.exists_snapshot
  have horder := Store.pairwise_listedBefore hs hn
  refine ⟨n, hn, Store.listTransactions_of_snapshot hn, Store.exists_perm_of_snapshot hs hn,
    Store.nodup_ids_of_snapshot hs hn, horder, (showsNewest_iff horder).1, fun c filter => ?_,
    fun c expression accounts inScope hscope => ?_⟩
  · exact ⟨fun limit w => perform_listTransactions hn c filter limit,
      (showsNewest_iff (horder.sublist (found_sublist n filter))).2⟩
  · exact ⟨fun limit w => perform_searchFilter hn c expression hscope limit,
      (showsNewest_iff (horder.sublist List.filter_sublist)).2⟩

/-- A transaction of which nothing is known but its date. -/
def dated (d : Date) : Posting := ⟨none, d, none, "TEA", 0, none⟩

/-- Tea is bought on some dates. -/
def teaOn (dates : List Date) : List Operation := dates.map fun d => .addTransaction (dated d)

theorem lists_newest_first_two_years :
    ∃ n, (Store.empty.run
        (teaOn [⟨2024, 1, 1, by decide⟩, ⟨2023, 12, 31, by decide⟩])).snapshot = .ok n ∧
      n.transactions.Pairwise Transaction.NewerThan ∧ ShowsNewest (n.search (.only []) "tea") := by
  obtain ⟨n, hn, hlist, -, -, -, hnewest, -, hsearch⟩ :=
    lists_newest_first (teaOn [⟨2024, 1, 1, by decide⟩, ⟨2023, 12, 31, by decide⟩])
  rw [Store.listTransactions_of_pairwise (by decide +kernel)] at hlist
  have hread : (Store.empty.run (teaOn [⟨2024, 1, 1, by decide⟩,
      ⟨2023, 12, 31, by decide⟩])).transactions.mapM Store.readTransaction =
      .ok [⟨dated ⟨2024, 1, 1, by decide⟩, 1⟩, ⟨dated ⟨2023, 12, 31, by decide⟩, 2⟩] := by
    decide +kernel
  have hyears : ∀ t ∈ n.transactions, 0 ≤ t.date.year ∧ t.date.year ≤ 9999 := by
    rw [Except.ok.inj (hlist.symm.trans hread)]
    decide
  refine ⟨n, hn, hnewest.2 (yearsInOrder_of_four_digits hyears), ?_⟩
  refine (hsearch ⟨⟨false, ⟨"", false, [], ""⟩⟩, .min⟩ "tea" [] (.only []) rfl).2.2 ?_
  exact yearsInOrder_of_four_digits fun t ht => hyears t (List.mem_of_mem_filter ht)

/-- A year of more than four digits has the smaller text, so that its transactions are listed
last. -/
theorem lists_later_date_last :
    (Store.empty.run (teaOn [⟨2024, 1, 1, by decide⟩, ⟨10000, 1, 1, by decide⟩])).listTransactions =
      .ok [⟨dated ⟨2024, 1, 1, by decide⟩, 1⟩, ⟨dated ⟨10000, 1, 1, by decide⟩, 2⟩] ∧
    ¬ Transaction.NewerThan ⟨dated ⟨2024, 1, 1, by decide⟩, 1⟩
      ⟨dated ⟨10000, 1, 1, by decide⟩, 2⟩ := by
  have hsorted : (Store.empty.run (teaOn [⟨2024, 1, 1, by decide⟩,
      ⟨10000, 1, 1, by decide⟩])).transactions.Pairwise (Store.newestFirst · ·) := by
    decide +kernel
  rw [Store.listTransactions_of_pairwise hsorted]
  decide +kernel

end Coffer.Command
