/-
**What a command that fails has written.**

Most commands look up what they need, write once, and then only answer: if they fail, the store is
as it was.  A new transaction takes several steps.  Its account and its category are made first, the
transaction is entered next, and the tags are made and attached last.  The tags never fail, because
the transaction and the tag are there; so does the transaction itself, unless its amount is not a
number.  Then the account and the category stay behind.

Main definitions:

* `Coffer.Command.Entry.Strands` — a new transaction that leaves a new account or a new category.

Main results:

* `Coffer.Command.outcome_attachTags` — **the tags of a transaction that is there never fail;**
* `Coffer.Command.allOrNothing_action` — all commands but a new transaction write all or nothing;
* `Coffer.Command.failed_keeps_store_iff` — **a command that fails leaves everything as it was,**
  but for a new transaction that is stranded.
-/

import Coffer.Command.Perform
import Coffer.Proofs.Command.Actions
import Coffer.Proofs.Store.Names

set_option autoImplicit false

namespace Coffer.Command

open Coffer.Command.Action (Reads AllOrNothing Completes)

/-! ### Looking up -/

theorem reads_category (name : String) : Reads (category name) :=
  Reads.get.bind fun s => .demand _ (s.categoryNamed? name)

theorem reads_tag (name : String) : Reads (tag name) :=
  Reads.get.bind fun s => .demand _ (s.tagNamed? name)

theorem reads_transaction (id : Int) : Reads (transaction id) :=
  (Reads.consult _).bind fun t => .demand _ t

theorem reads_savedFilter (called : String) : Reads (savedFilter called) :=
  Reads.get.bind fun s => .demand _ (findFilter? s called)

theorem reads_target (id : Int) : Reads (target id) :=
  (Reads.consult _).bind fun targets => .demand _ (targets.find? (·.id == id))

theorem reads_scope (standard accounts : List String) : Reads (scope standard accounts) :=
  .consultFor _ _

theorem reads_snapshot : Reads snapshot := .consult _

/-! ### Commands that show -/

theorem reads_listAccounts : Reads listAccounts := by
  refine Reads.get.bind fun s => ?_
  split <;> exact .pure _

theorem reads_listCategories : Reads listCategories := by
  refine Reads.get.bind fun s => ?_
  split <;> exact .pure _

theorem reads_listTags : Reads listTags := by
  refine Reads.get.bind fun s => ?_
  split <;> exact .pure _

theorem reads_listTransactions (style : Style) (filter : Option String) (limit : Nat) :
    Reads (listTransactions style filter limit) :=
  reads_snapshot.bind fun _ => .ite (.pure _) (.ite (.pure _) (.pure _))

theorem reads_searchFilter (style : Style) (expression : String) (accounts : List String)
    (limit : Nat) : Reads (searchFilter style expression accounts limit) :=
  (reads_scope _ _).bind fun _ => reads_snapshot.bind fun _ => .ite (.pure _) (.pure _)

theorem reads_listFilters : Reads listFilters := by
  refine Reads.get.bind fun s => ?_
  split <;> exact .pure _

theorem reads_listRules : Reads listRules := by
  refine Reads.get.bind fun s => ?_
  split
  · exact .pure _
  · exact reads_snapshot.bind fun _ => .pure _

theorem reads_previewRules (style : Style) (accounts : List String) :
    Reads (previewRules style accounts) :=
  (reads_scope _ _).bind fun _ => reads_snapshot.bind fun _ => .ite (.pure _) (.pure _)

theorem reads_showBudget (style : Style) (today : Date) (month : Option String)
    (accounts : List String) : Reads (showBudget style today month accounts) :=
  (reads_scope _ _).bind fun _ => reads_snapshot.bind fun _ =>
    (Reads.consultFor _ _).bind fun _ => .ite (.pure _) (.ite (.pure _) (.pure _))

theorem reads_reportDay (today : Date) (date : Option String) : Reads (reportDay today date) := by
  unfold reportDay
  split
  · exact .pure _
  · split
    · exact .pure _
    · exact .throw _

theorem reads_listTargets (style : Style) (today : Date) (date : Option String)
    (accounts : List String) : Reads (listTargets style today date accounts) :=
  (reads_reportDay today date).bind fun _ => (reads_scope _ _).bind fun _ =>
    reads_snapshot.bind fun _ => .ite (.pure _) (.ite (.pure _) (.pure _))

/-! ### Commands that write once -/

theorem allOrNothing_addAccount (name : String) : AllOrNothing (addAccount name) :=
  (AllOrNothing.ensure _ _).bind_pure _

theorem allOrNothing_addCategory (name : String) (order : Int) (color : Option String) :
    AllOrNothing (addCategory name order color) :=
  (AllOrNothing.ensure _ _).bind_pure _

theorem allOrNothing_addTag (name : String) (color : Option String) :
    AllOrNothing (addTag name color) :=
  (AllOrNothing.ensure _ _).bind_pure _

theorem allOrNothing_tagTransaction (id : Int) (name : String) :
    AllOrNothing (tagTransaction id name) :=
  .bind (reads_transaction id) fun _ => .bind (reads_tag name) fun _ =>
    (AllOrNothing.carry _).bind_pure _

theorem allOrNothing_categorize (id : Int) (name : Option String) :
    AllOrNothing (categorize id name) := by
  refine .bind (reads_transaction id) fun _ => ?_
  cases name with
  | some name => exact .bind (reads_category name) fun _ => (AllOrNothing.carry _).bind_pure _
  | none => exact (AllOrNothing.carry _).bind_pure _

theorem allOrNothing_addFilter (name expression : String) :
    AllOrNothing (addFilter name expression) :=
  (AllOrNothing.attempt _).bind_pure _

/-- An action that fails if there was nothing to write. -/
theorem allOrNothing_update {write : Store → Bool × Store}
    (hwrite : ∀ s, (write s).1 = false → (write s).2 = s) (answer message : String) :
    AllOrNothing (do
      if ← Action.update write then return answer
      else Action.fail message) := by
  intro w s e t h
  rcases Steps.of_outcome_bind_eq_error h with h | ⟨b, u, hu, h⟩
  · exact AllOrNothing.update write w s e t h
  · replace hu := (Action.outcome_update w write s).symm.trans hu
    cases w with
    | false => cases hu
    | true =>
        cases hu
        cases hfound : (write s).1 with
        | true =>
            rw [hfound] at h
            cases h
        | false =>
            rw [hfound] at h
            cases h
            exact hwrite s hfound

/-- Where no record has an id, none is deleted. -/
theorem filter_id_ne_eq_self {α : Type} (key : α → Int) {xs : List α} {i : Int}
    (h : xs.any (fun x => key x == i) = false) : xs.filter (fun x => key x != i) = xs := by
  refine List.filter_eq_self.2 fun x hx => ?_
  simpa using List.any_eq_false.1 h x hx

theorem allOrNothing_deleteFilter (id : Int) : AllOrNothing (deleteFilter id) := by
  refine allOrNothing_update (fun s h => ?_) _ _
  show { s with filters := s.filters.filter (·.id != id) } = s
  rw [filter_id_ne_eq_self SavedFilter.id h]

theorem allOrNothing_enableRule (id : Int) (enabled : Bool) :
    AllOrNothing (enableRule id enabled) := by
  refine allOrNothing_update (fun s h => ?_) _ _
  have hnone : s.rules.map (fun r => if r.id = id then { r with enabled := enabled } else r) =
      s.rules := by
    refine (List.map_congr_left fun r hr => ?_).trans s.rules.map_id
    exact if_neg (by simpa using List.any_eq_false.1 h r hr)
  show { s with rules := s.rules.map _ } = s
  rw [hnone]

theorem allOrNothing_deleteRule (id : Int) : AllOrNothing (deleteRule id) := by
  refine allOrNothing_update (fun s h => ?_) _ _
  show { s with rules := s.rules.filter (·.id != id) } = s
  rw [filter_id_ne_eq_self Rule.id h]

theorem allOrNothing_addRule (name filter : String) (categoryName : Option String)
    (tags : List String) (order : Int) :
    AllOrNothing (addRule name filter categoryName tags order) := by
  refine .failIf _ (.bind (reads_savedFilter filter) fun _ => ?_)
  refine .bind (.optionMapM reads_category categoryName) fun _ => ?_
  exact .bind (.mapM reads_tag tags) fun _ => (AllOrNothing.attempt _).bind_pure _

theorem allOrNothing_applyRules (style : Style) (accounts : List String) :
    AllOrNothing (applyRules style accounts) := by
  refine .bind (reads_scope _ _) fun _ => .bind reads_snapshot fun _ => ?_
  refine .ite (Reads.allOrNothing (.bind (.pure _) fun _ => .ite (.pure _) (.pure _))) ?_
  exact .bind_completes (.attempt _) fun _ => .ite (.pure _) (.pure _)

theorem allOrNothing_setBudget (settings : Settings) (name : String) (amount : Float)
    (month : Option String) : AllOrNothing (setBudget settings name amount month) := by
  refine .bind (reads_category name) fun _ => ?_
  cases month with
  | some month =>
      refine .bind (.consult _) fun p => .bind .get fun s => .bind (.demand _ _) fun b => ?_
      exact (AllOrNothing.carry _).bind_pure _
  | none => exact (AllOrNothing.attempt _).bind_pure _

theorem allOrNothing_addTarget (name filter period : String) (amount : Float) :
    AllOrNothing (addTarget name filter period amount) :=
  .bind (.demand _ _) fun _ => .bind (reads_savedFilter filter) fun _ =>
    (AllOrNothing.attempt _).bind_pure _

theorem allOrNothing_overrideTarget (id : Int) (key : String) (amount : Float) :
    AllOrNothing (overrideTarget id key amount) :=
  .bind (reads_target id) fun _ => .bind (.consult _) fun _ =>
    .failIf _ ((AllOrNothing.carry _).bind_pure _)

theorem allOrNothing_addOffset (credit debit : Int) (amount : Float) :
    AllOrNothing (addOffset credit debit amount) := by
  refine .bind (reads_transaction credit) fun _ => .bind (reads_transaction debit) fun _ => ?_
  refine .failIf _ (.failIf _ (.failIf _ ?_))
  exact (AllOrNothing.attempt _).bind_pure _

/-! ### A new transaction with its names -/

section

variable {s : Store}

theorem outcome_accountId (name : String) (s : Store) :
    Steps.outcome ((accountId name).run true) s =
      (.ok (s.ensureAccount name).1, (s.ensureAccount name).2) :=
  Action.outcome_ensure (fun _ _ => Store.ensureAccount_of_found) s

theorem outcome_categoryId (name : String) (order : Int) (color : Option String) (s : Store) :
    Steps.outcome ((categoryId name order color).run true) s =
      (.ok (s.ensureCategory name order color).1, (s.ensureCategory name order color).2) :=
  Action.outcome_ensure (fun _ _ => Store.ensureCategory_of_found) s

theorem outcome_tagId (name : String) (color : Option String) (s : Store) :
    Steps.outcome ((tagId name color).run true) s =
      (.ok (s.ensureTag name color).1, (s.ensureTag name color).2) :=
  Action.outcome_ensure (fun _ _ => Store.ensureTag_of_found) s

theorem outcome_withName {act : String → Action Int} {ensure : String → Store → Int × Store}
    (h : ∀ name s,
      Steps.outcome ((act name).run true) s = (.ok (ensure name s).1, (ensure name s).2))
    (name : Option String) (s : Store) :
    Steps.outcome ((name.mapM act).run true) s =
      (.ok (Store.withName ensure name s).1, (Store.withName ensure name s).2) := by
  cases name with
  | none => rfl
  | some name => exact Steps.outcome_bind_of_ok (h name s)

/-- A tag is attached to a transaction that is there, and the transaction stays there. -/
theorem outcome_attachTagNamed {i : Int} (name : String) (h : s.hasTransaction i = true) :
    ∃ t, Steps.outcome ((attachTagNamed i name).run true) s = (.ok (), t) ∧
      t.hasTransaction i = true := by
  have hkept : (s.ensureTag name none).2.hasTransaction i = true :=
    (Store.changes_ensureTag name none s).extends.transactions i h
  obtain ⟨t, ht⟩ :=
    Store.exists_attachTag_eq_ok .manual hkept (Store.hasTag_ensureTag name none s)
  refine ⟨t, ?_, (Store.changes_attachTag ht).extends.transactions i hkept⟩
  refine (Steps.outcome_bind_of_ok (outcome_tagId name none s)).trans ?_
  refine (Action.outcome_attempt _ _).trans ?_
  rw [ht]
  rfl

/-- **The tags of a transaction that is there never fail.** -/
theorem outcome_attachTags {i : Int} (names : List String) (h : s.hasTransaction i = true) :
    ∃ t, Steps.outcome ((names.forM (attachTagNamed i)).run true) s = (.ok ⟨⟩, t) := by
  induction names generalizing s with
  | nil => exact ⟨s, rfl⟩
  | cons name rest ih =>
      obtain ⟨u, hu, hkept⟩ := outcome_attachTagNamed name h
      obtain ⟨t, ht⟩ := ih hkept
      exact ⟨t, (Steps.outcome_bind_of_ok hu).trans ht⟩

/-- The transaction of an entry, with the ids that its account and its category have or get. -/
def Entry.posting (e : Entry) (d : Date × Option String) (s : Store) : Posting where
  account := (s.withAccount e.account).1
  date := d.1
  dateRaw := d.2
  description := e.description
  amount := e.amount
  category := ((s.withAccount e.account).2.withCategory e.category).1

/-- The transaction of an entry is refused exactly if its amount is not a number. -/
theorem outcome_posting (e : Entry) (d : Date × Option String) (s : Store) :
    (e.amount.isNaN = true ∧ Steps.outcome
        ((Action.attempt (Store.addTransaction (e.posting d s))).run true)
        (s.withNames e.account e.category) =
      (.error (.ofError (.store (.missingValue "transactions.amount"))),
        s.withNames e.account e.category)) ∨
      (e.amount.isNaN = false ∧ ∃ i t, Steps.outcome
        ((Action.attempt (Store.addTransaction (e.posting d s))).run true)
        (s.withNames e.account e.category) = (.ok i, t) ∧ t.hasTransaction i = true) := by
  rw [Action.outcome_attempt]
  rcases Store.addTransaction_cases (p := e.posting d s) (fun i => Store.hasAccount_withNames)
    (fun i => Store.hasCategory_withNames) with
    ⟨hamount, hrefused⟩ | ⟨hamount, i, t, hadded, hthere⟩
  · rw [hrefused]
    exact .inl ⟨hamount, rfl⟩
  · rw [hadded]
    exact .inr ⟨hamount, i, t, rfl, hthere⟩

theorem outcome_entryDate (text : String) (w : Bool) (s : Store) :
    Steps.outcome ((entryDate text).run w) s = match readDate text with
      | .ok d => (.ok d, s)
      | .error e =>
        (.error ⟨"Invalid --date format (use YYYY-MM-DD or MM/DD/YYYY)", [e.message]⟩, s) := by
  unfold entryDate
  rcases readDate text with e | d <;> rfl

theorem reads_entryDate (text : String) : Reads (entryDate text) := by
  intro w s
  rw [outcome_entryDate]
  split <;> rfl

/-- What a new transaction comes to if its date can be read: it fails exactly if its amount is not a
number, and then its account and its category are there. -/
theorem outcome_addTransaction {e : Entry} {d : Date × Option String}
    (hdate : readDate e.date = .ok d) (s : Store) :
    (e.amount.isNaN = true ∧ Steps.outcome ((addTransaction e).run true) s =
        (.error (.ofError (.store (.missingValue "transactions.amount"))),
          s.withNames e.account e.category)) ∨
      (e.amount.isNaN = false ∧
        ∃ t text, Steps.outcome ((addTransaction e).run true) s = (.ok text, t)) := by
  have hentry : Steps.outcome ((entryDate e.date).run true) s = (.ok d, s) := by
    rw [outcome_entryDate, hdate]
  have haccount := outcome_withName outcome_accountId e.account s
  have hcategory := outcome_withName (fun name => outcome_categoryId name 0 none) e.category
    (s.withAccount e.account).2
  rcases outcome_posting e d s with ⟨hamount, hrefused⟩ | ⟨hamount, i, u, hadded, hthere⟩
  · refine .inl ⟨hamount, ?_⟩
    refine (Steps.outcome_bind_of_ok hentry).trans ?_
    refine (Steps.outcome_bind_of_ok haccount).trans ?_
    refine (Steps.outcome_bind_of_ok hcategory).trans ?_
    exact Steps.outcome_bind_of_error hrefused
  · obtain ⟨t, ht⟩ := outcome_attachTags e.tags hthere
    refine .inr ⟨hamount, t, ?_⟩
    refine Steps.exists_outcome_bind_of_ok hentry ?_
    refine Steps.exists_outcome_bind_of_ok haccount ?_
    refine Steps.exists_outcome_bind_of_ok hcategory ?_
    refine Steps.exists_outcome_bind_of_ok hadded ?_
    exact Steps.exists_outcome_bind_of_ok ht ⟨_, rfl⟩

/-- A new transaction writes nothing where nothing may be written. -/
theorem reads_addTransaction_false (e : Entry) : Steps.Reads ((addTransaction e).run false) := by
  refine (reads_entryDate e.date false).bind fun d => ?_
  refine (Action.reads_optionMapM (fun _ => Action.reads_ensure_false _ _) _).bind fun account => ?_
  refine (Action.reads_optionMapM (fun _ => Action.reads_ensure_false _ _) _).bind
    fun category => ?_
  exact Steps.Reads.bind_of_error (Action.outcome_attempt_false _)

end

/-! ### All commands -/

variable {c : Setting} {r : Request} {w : Bool} {s t : Store} {f : Failure}

/-- A new transaction is given up after its account and its category are there, and one of them is
new: its date can be read, but its amount is not a number. -/
structure Entry.Strands (e : Entry) (w : Bool) (s : Store) : Prop where
  writable : w = true
  date : ∃ d, readDate e.date = .ok d
  amount : e.amount.isNaN = true
  names : s.knowsNames e.account e.category = false

/-- All commands but a new transaction write all or nothing. -/
theorem allOrNothing_action (c : Setting) (h : ∀ e, r ≠ .addTransaction e) :
    AllOrNothing (action c r) := by
  cases r with
  | init => exact (Reads.pure "").allOrNothing
  | checkFilter expression => exact (Reads.pure "").allOrNothing
  | listAccounts => exact reads_listAccounts.allOrNothing
  | addAccount name => exact allOrNothing_addAccount name
  | listCategories => exact reads_listCategories.allOrNothing
  | addCategory name order color => exact allOrNothing_addCategory name order color
  | listTags => exact reads_listTags.allOrNothing
  | addTag name color => exact allOrNothing_addTag name color
  | listTransactions filter limit => exact (reads_listTransactions _ _ _).allOrNothing
  | addTransaction e => exact absurd rfl (h e)
  | tagTransaction id name => exact allOrNothing_tagTransaction id name
  | categorize id name => exact allOrNothing_categorize id name
  | searchFilter expression accounts limit => exact (reads_searchFilter _ _ _ _).allOrNothing
  | listFilters => exact reads_listFilters.allOrNothing
  | addFilter name expression => exact allOrNothing_addFilter name expression
  | deleteFilter id => exact allOrNothing_deleteFilter id
  | listRules => exact reads_listRules.allOrNothing
  | addRule name filter category tags order => exact allOrNothing_addRule _ _ _ _ _
  | enableRule id enabled => exact allOrNothing_enableRule id enabled
  | deleteRule id => exact allOrNothing_deleteRule id
  | previewRules accounts => exact (reads_previewRules _ _).allOrNothing
  | applyRules accounts => exact allOrNothing_applyRules _ _
  | showBudget month accounts => exact (reads_showBudget _ _ _ _).allOrNothing
  | setBudget name amount month => exact allOrNothing_setBudget _ _ _ _
  | listTargets date accounts => exact (reads_listTargets _ _ _ _).allOrNothing
  | addTarget name filter period amount => exact allOrNothing_addTarget _ _ _ _
  | overrideTarget id key amount => exact allOrNothing_overrideTarget id key amount
  | addOffset credit debit amount => exact allOrNothing_addOffset credit debit amount

/-- A new transaction that strands leaves its account and its category. -/
theorem perform_of_strands {e : Entry} (h : e.Strands w s) (c : Setting) :
    perform c (.addTransaction e) w s =
      (.error (.ofError (.store (.missingValue "transactions.amount"))),
        s.withNames e.account e.category) := by
  cases h.writable
  obtain ⟨d, hd⟩ := h.date
  rcases outcome_addTransaction hd s with ⟨-, hrefused⟩ | ⟨hamount, -⟩
  · exact hrefused
  · rw [h.amount] at hamount
    cases hamount

/-- A new transaction that fails without being stranded leaves everything as it was. -/
theorem eq_of_not_strands {e : Entry} (h : perform c (.addTransaction e) w s = (.error f, t))
    (hstrands : ¬ e.Strands w s) : t = s := by
  cases w with
  | false => exact (congrArg Prod.snd h).symm.trans (reads_addTransaction_false e s)
  | true =>
      cases hdate : readDate e.date with
      | error x =>
          have hentry := outcome_entryDate e.date true s
          rw [hdate] at hentry
          cases (Steps.outcome_bind_of_error hentry).symm.trans h
          rfl
      | ok d =>
          rcases outcome_addTransaction hdate s with ⟨hamount, hrefused⟩ | ⟨-, u, text, hadded⟩
          · cases hrefused.symm.trans h
            rw [Store.withNames_eq_self_iff, ← Bool.not_eq_false]
            exact fun hnames => hstrands ⟨rfl, ⟨d, hdate⟩, hamount, hnames⟩
          · cases hadded.symm.trans h

/-- **A command that fails leaves everything as it was,** but for a new transaction that is
stranded, of which the account and the category stay. -/
theorem failed_keeps_store_iff (h : perform c r w s = (.error f, t)) :
    (t = s ↔ ∀ e, r = .addTransaction e → ¬ e.Strands w s) ∧
      ∀ e, r = .addTransaction e → e.Strands w s → t = s.withNames e.account e.category := by
  have hleft : ∀ e, r = .addTransaction e → e.Strands w s →
      t = s.withNames e.account e.category := by
    rintro e rfl hstrands
    cases (perform_of_strands hstrands c).symm.trans h
    rfl
  refine ⟨⟨fun hsame e he hstrands => ?_, fun hnot => ?_⟩, hleft⟩
  · have hnames := Store.withNames_eq_self_iff.1 ((hleft e he hstrands).symm.trans hsame)
    rw [hstrands.names] at hnames
    cases hnames
  · by_cases hr : ∃ e, r = .addTransaction e
    · obtain ⟨e, rfl⟩ := hr
      exact eq_of_not_strands h (hnot e rfl)
    · exact allOrNothing_action c (fun e he => hr ⟨e, he⟩) w s f t h

/-- A transaction on a new account, whose amount is not a number. -/
def withoutAmount : Entry := ⟨"2024-05-01", 0 / 0, "X", some "Card", none, []⟩

/-- The usual settings, on a day in May. -/
def usual : Setting := ⟨⟨false, .standard⟩, ⟨2024, 5, 1, by decide⟩⟩

/-- An empty store with one account. -/
def cardOnly : Store := { Store.empty with accounts := [⟨1, "Card"⟩] }

theorem failed_keeps_store_iff_withoutAmount :
    perform usual (.addTransaction withoutAmount) true .empty =
        (.error (.ofError (.store (.missingValue "transactions.amount"))), cardOnly) ∧
      (cardOnly = .empty ↔ ∀ e, Request.addTransaction withoutAmount = .addTransaction e →
        ¬ e.Strands true .empty) ∧
      ∀ e, Request.addTransaction withoutAmount = .addTransaction e → e.Strands true .empty →
        cardOnly = Store.empty.withNames e.account e.category :=
  have hfailed : perform usual (.addTransaction withoutAmount) true .empty =
      (.error (.ofError (.store (.missingValue "transactions.amount"))), cardOnly) := rfl
  ⟨hfailed, failed_keeps_store_iff hfailed⟩

/-- The account of a transaction whose amount is not a number stays, although the command has
failed. -/
theorem account_of_withoutAmount :
    invocation ["--no-encrypt", "transactions", "add", "--date", "2024-05-01", "--amount", "NaN",
        "--desc", "X", "--account", "Card"] =
      .ok ⟨none, none, true, false, .addTransaction withoutAmount⟩ ∧
    perform usual (.addTransaction withoutAmount) true .empty =
      (.error (.ofError (.store (.missingValue "transactions.amount"))), cardOnly) ∧
    cardOnly ≠ .empty :=
  ⟨rfl, rfl, by decide⟩

end Coffer.Command
