/-
**Commands check before they write.**

Whatever a command does to the store, it does by operations that it has checked, and this holds also
of a command that fails on the way.  Most operations need no check.  A rule must say something, an
offset must be of a credit against a debit, and the key of a period is read and written anew.

Main definitions:

* `Coffer.Command.Action.Checked` — the action writes by checked operations only;
* `Coffer.Command.afterCalls` — the store after a row of commands.

Main results:

* `Coffer.Command.of_outcome_addRule`, `Coffer.Command.of_outcome_addOffset` — what a command has
  checked;
* `Coffer.Command.checked_action` — **every command writes by checked operations only;**
* `Coffer.Command.checkedSteps_afterCalls` — so does every row of commands.
-/

import Coffer.Proofs.Command.AllOrNothing
import Coffer.Proofs.Command.Overrides
import Coffer.Proofs.Store.WellFormed

set_option autoImplicit false

namespace Coffer.Command

open Coffer.Store (CheckedSteps)
open Coffer.Command.Action (Reads AllOrNothing)

/-! ### Actions that write by checked operations -/

namespace Action

variable {α β : Type} {a : Action α} {f : α → Action β}

/-- The action changes the store by checked operations only, however it ends. -/
def Checked (a : Action α) : Prop := ∀ w s, CheckedSteps s (Steps.outcome (a.run w) s).2

/-- What reads does not change the store at all. -/
theorem Reads.checked (ha : Reads a) : Checked a := by
  intro w s
  rw [ha w s]

/-- What writes all or nothing is looked at where it succeeds. -/
theorem AllOrNothing.checked (ha : AllOrNothing a)
    (hok : ∀ w s x t, Steps.outcome (a.run w) s = (.ok x, t) → CheckedSteps s t) : Checked a := by
  intro w s
  rcases h : Steps.outcome (a.run w) s with ⟨e | x, t⟩
  · rw [ha w s e t h]
  · exact hok w s x t h

namespace Checked

theorem bind (ha : Checked a) (hf : ∀ x, Checked (f x)) : Checked (a >>= f) :=
  fun w s => Steps.rel_outcome_bind .trans (ha w s) fun x t _ => hf x w t

theorem bind_pure (ha : Checked a) (g : α → β) : Checked (a >>= fun x => Pure.pure (g x)) :=
  ha.bind fun x => (Reads.pure (g x)).checked

theorem ite {c : Prop} [Decidable c] {a' : Action α} (ha : Checked a) (ha' : Checked a') :
    Checked (if c then a else a') := by
  split
  · exact ha
  · exact ha'

theorem optionMapM {γ : Type} {g : γ → Action α} (hg : ∀ x, Checked (g x)) (x : Option γ) :
    Checked (x.mapM g) := by
  cases x with
  | none => exact (Reads.pure none).checked
  | some x => exact (hg x).bind_pure some

theorem forM {γ : Type} {g : γ → Action PUnit} (hg : ∀ x, Checked (g x)) (xs : List γ) :
    Checked (xs.forM g) := by
  induction xs with
  | nil => exact (Reads.pure _).checked
  | cons x rest ih => exact (hg x).bind fun _ => ih

/-- What is written by an operation that answers. -/
theorem attempt {write : Store → Except StoreError (α × Store)}
    (h : ∀ s x t, write s = .ok (x, t) → CheckedSteps s t) : Checked (attempt write) :=
  (AllOrNothing.attempt write).checked fun _ s x t hok =>
    h s x t (outcome_attempt_eq_ok_iff.1 hok).2

theorem carry {write : Store → Except StoreError Store}
    (h : ∀ s t, write s = .ok t → CheckedSteps s t) : Checked (carry write) :=
  (AllOrNothing.carry write).checked fun _ s _ t hok => h s t (outcome_carry_eq_ok_iff.1 hok).2

theorem update {write : Store → α × Store} (h : ∀ s, CheckedSteps s (write s).2) :
    Checked (update write) := by
  intro w s
  rw [outcome_update]
  cases w with
  | true => exact h s
  | false => exact .refl

theorem ensure {find? : Store → Option α} {write : Store → α × Store}
    (h : ∀ s, CheckedSteps s (write s).2) : Checked (ensure find? write) := by
  refine Reads.get.checked.bind fun s => ?_
  cases find? s with
  | some x => exact (Reads.pure x).checked
  | none => exact update h

end Checked

end Action

open Coffer.Command.Action (Checked)

/-! ### Commands that need no check -/

theorem checked_accountId (name : String) : Checked (accountId name) :=
  .ensure fun _ => .of_perform (.ensureAccount name) trivial rfl

theorem checked_categoryId (name : String) (order : Int) (color : Option String) :
    Checked (categoryId name order color) :=
  .ensure fun _ => .of_perform (.ensureCategory name order color) trivial rfl

theorem checked_tagId (name : String) (color : Option String) : Checked (tagId name color) :=
  .ensure fun _ => .of_perform (.ensureTag name color) trivial rfl

theorem checked_attachTag (i g : Int) : Checked (Action.carry (Store.attachTag i g .manual)) :=
  .carry fun _ _ h =>
    .of_perform (.attachTag i g .manual) trivial (congrArg (·.map Store.withDone) h)

theorem checked_setCategory (i : Int) (c : Option Int) :
    Checked (Action.carry (Store.categorize i c)) :=
  .carry fun _ _ h => .of_perform (.categorize i c) trivial (congrArg (·.map Store.withDone) h)

theorem checked_attachTagNamed (i : Int) (name : String) : Checked (attachTagNamed i name) :=
  (checked_tagId name none).bind fun g => checked_attachTag i g

theorem checked_addTransaction (e : Entry) : Checked (addTransaction e) := by
  refine (reads_entryDate e.date).checked.bind fun d => ?_
  refine (Checked.optionMapM checked_accountId e.account).bind fun account => ?_
  refine (Checked.optionMapM (fun name => checked_categoryId name 0 none) e.category).bind
    fun category => ?_
  refine Checked.bind (.attempt fun _ _ _ h => ?_) fun i => ?_
  · exact .of_perform (.addTransaction _) trivial (congrArg (·.map Store.withId) h)
  · exact (Checked.forM (checked_attachTagNamed i) e.tags).bind_pure _

theorem checked_tagTransaction (id : Int) (name : String) : Checked (tagTransaction id name) :=
  (reads_transaction id).checked.bind fun t => (reads_tag name).checked.bind fun g =>
    (checked_attachTag t.id g.id).bind_pure _

theorem checked_categorize (id : Int) (name : Option String) : Checked (categorize id name) := by
  refine (reads_transaction id).checked.bind fun t => ?_
  cases name with
  | some name =>
    exact (reads_category name).checked.bind fun c => (checked_setCategory t.id _).bind_pure _
  | none => exact (checked_setCategory t.id none).bind_pure _

theorem checked_addFilter (name expression : String) : Checked (addFilter name expression) := by
  refine Checked.bind_pure (.attempt fun _ _ _ h => ?_) _
  exact .of_perform (.addFilter name expression) trivial (congrArg (·.map Store.withId) h)

/-- An action that fails if there was nothing to write. -/
theorem checked_update (op : Operation) {write : Store → Bool × Store} (hop : ∀ s, op.IsChecked s)
    (hperform : ∀ s, Store.perform s op = .ok (Store.withFound (write s)))
    (answer message : String) :
    Checked (do
      if ← Action.update write then return answer
      else Action.fail message) := by
  refine Checked.bind (.update fun s => .of_perform op (hop s) (hperform s)) fun _ => ?_
  exact .ite (Action.Reads.pure _).checked (Action.Reads.fail _).checked

theorem checked_addTarget (name filter period : String) (amount : Float) :
    Checked (addTarget name filter period amount) := by
  refine (Reads.demand _ _).checked.bind fun kind =>
    (reads_savedFilter filter).checked.bind fun f => ?_
  refine Checked.bind_pure (.attempt fun _ _ _ h => ?_) _
  exact .of_perform (.addTarget name f.id kind amount) trivial (congrArg (·.map Store.withId) h)

/-- What rules change is written by one operation. -/
theorem checked_applyRules (style : Style) (accounts : List String) :
    Checked (applyRules style accounts) := by
  refine (reads_scope _ _).checked.bind fun inScope => reads_snapshot.checked.bind fun n => ?_
  refine .ite (Reads.checked (.bind (.pure _) fun _ => .ite (.pure _) (.pure _))) ?_
  refine Checked.bind (.attempt fun s a t h => ?_) fun _ =>
    .ite (Reads.pure _).checked (Reads.pure _).checked
  rw [← Store.after_writeMutations_of_apply h]
  exact .after _ trivial

/-! ### Commands that check -/

variable {w : Bool} {s t : Store} {text : String}

/-- A rule is entered for the filter that is found, if it says something. -/
theorem of_outcome_addRule {name filter : String} {categoryName : Option String}
    {tags : List String} {order : Int}
    (h : Steps.outcome ((addRule name filter categoryName tags order).run w) s = (.ok text, t)) :
    ∃ f d i, findFilter? s filter = some f ∧ d.filter = f.id ∧
      (Operation.addRule d).IsChecked s ∧ s.addRule d = .ok (i, t) := by
  obtain ⟨hasked, hfinds⟩ := Action.outcome_failIf_eq_ok_iff.1 h
  obtain ⟨f, s₁, hlook, hgives⟩ := Action.outcome_bind_eq_ok_iff.1 hfinds
  obtain ⟨hfound, rfl⟩ := outcome_savedFilter_eq_ok_iff.1 hlook
  obtain ⟨category, s₂, hcategory, hadds⟩ := Action.outcome_bind_eq_ok_iff.1 hgives
  obtain rfl := (Reads.optionMapM reads_category categoryName).eq_of_outcome hcategory
  obtain ⟨gs, s₃, htags, hwrites⟩ := Action.outcome_bind_eq_ok_iff.1 hadds
  obtain rfl := (Reads.mapM reads_tag tags).eq_of_outcome htags
  obtain ⟨i, s₄, hattempt, hprint⟩ := Action.outcome_bind_eq_ok_iff.1 hwrites
  obtain ⟨-, hwrite⟩ := Action.outcome_attempt_eq_ok_iff.1 hattempt
  obtain ⟨-, rfl⟩ := Action.outcome_pure_eq_ok_iff.1 hprint
  refine ⟨f, _, i, hfound, rfl, ?_, hwrite⟩
  -- what is found is as much as what is asked for
  have hsome := Action.isSome_of_outcome_optionMapM hcategory
  have hlength := Action.length_of_outcome_mapM htags
  cases categoryName with
  | some name =>
      obtain ⟨x, rfl⟩ := Option.isSome_iff_exists.1 hsome
      exact .inl nofun
  | none =>
      cases tags with
      | nil => exact absurd ⟨rfl, rfl⟩ hasked
      | cons tag rest => exact .inr (by simpa using List.ne_nil_of_length_eq_add_one hlength)

/-- An offset is entered if it is greater than nothing, and of a credit against a debit. -/
theorem of_outcome_addOffset {credit debit : Int} {amount : Float}
    (h : Steps.outcome ((addOffset credit debit amount).run w) s = (.ok text, t)) :
    (Operation.addOffset credit debit amount).IsChecked s ∧
      ∃ i, s.addOffset credit debit amount = .ok (i, t) := by
  obtain ⟨x, s₁, hlookCredit, hfinds⟩ := Action.outcome_bind_eq_ok_iff.1 h
  obtain ⟨hx, rfl⟩ := outcome_transaction_eq_ok_iff.1 hlookCredit
  obtain ⟨y, s₂, hlookDebit, hchecks⟩ := Action.outcome_bind_eq_ok_iff.1 hfinds
  obtain ⟨hy, rfl⟩ := outcome_transaction_eq_ok_iff.1 hlookDebit
  obtain ⟨hcredit, hchecks⟩ := Action.outcome_failIf_eq_ok_iff.1 hchecks
  obtain ⟨hdebit, hchecks⟩ := Action.outcome_failIf_eq_ok_iff.1 hchecks
  obtain ⟨hpositive, hwrites⟩ := Action.outcome_failIf_eq_ok_iff.1 hchecks
  obtain ⟨i, s₃, hattempt, hprint⟩ := Action.outcome_bind_eq_ok_iff.1 hwrites
  obtain ⟨-, hwrite⟩ := Action.outcome_attempt_eq_ok_iff.1 hattempt
  obtain ⟨-, rfl⟩ := Action.outcome_pure_eq_ok_iff.1 hprint
  refine ⟨⟨hpositive, ⟨y.amount, Store.amountOf?_of_transaction? hy, ?_⟩,
    x.amount, Store.amountOf?_of_transaction? hx, ?_⟩, i, hwrite⟩
  · simpa [Posting.isDebit] using hdebit
  · simpa [Posting.isDebit] using hcredit

theorem checked_addRule (name filter : String) (categoryName : Option String) (tags : List String)
    (order : Int) : Checked (addRule name filter categoryName tags order) := by
  refine (allOrNothing_addRule name filter categoryName tags order).checked fun w s text t h => ?_
  obtain ⟨-, d, i, -, -, hop, hwrite⟩ := of_outcome_addRule h
  exact .of_perform (.addRule d) hop (congrArg (·.map Store.withId) hwrite)

theorem checked_addOffset (credit debit : Int) (amount : Float) :
    Checked (addOffset credit debit amount) := by
  refine (allOrNothing_addOffset credit debit amount).checked fun w s text t h => ?_
  obtain ⟨hop, i, hwrite⟩ := of_outcome_addOffset h
  exact .of_perform _ hop (congrArg (·.map Store.withId) hwrite)

theorem checked_overrideTarget (id : Int) (key : String) (amount : Float) :
    Checked (overrideTarget id key amount) := by
  refine (allOrNothing_overrideTarget id key amount).checked fun w s text t h => ?_
  obtain ⟨-, gs, g, p, hgs, hfind, hkey, hkind, hwrite⟩ :=
    outcome_overrideTarget_eq_ok_iff.1 ⟨text, h⟩
  refine .of_perform (.overrideTarget id p.key amount) ?_ (congrArg (·.map Store.withDone) hwrite)
  obtain ⟨row, hrow, hid, hperiod⟩ :=
    Store.exists_row_of_listTargets hgs (List.mem_of_find?_eq_some hfind)
  refine ⟨row, hrow, hid.trans (by simpa using List.find?_some hfind), p,
    Period.isKey_of_ofKey hkey, ?_⟩
  rw [hperiod, hkind]

theorem checked_setBudget (settings : Settings) (name : String) (amount : Float)
    (month : Option String) :
    Checked (setBudget settings name amount month) := by
  cases month with
  | none =>
      refine (reads_category name).checked.bind fun category => ?_
      refine Checked.bind_pure (.attempt fun _ _ _ h => ?_) _
      exact .of_perform (.setBudget category.id amount) trivial (congrArg (·.map Store.withId) h)
  | some month =>
      refine (allOrNothing_setBudget settings name amount (some month)).checked
        fun w s text t h => ?_
      obtain ⟨-, category, p, b, -, hkey, -, hwrite⟩ :=
        outcome_setBudget_month_eq_ok_iff.1 ⟨text, h⟩
      obtain ⟨hread, hmonthly⟩ := Period.ofMonthKey_eq_ok_iff.1 hkey
      refine .of_perform (.overrideBudget b.id p.key amount) ?_
        (congrArg (·.map Store.withDone) hwrite)
      exact ⟨p, Period.isKey_of_ofKey hread, hmonthly⟩

/-! ### All commands -/

/-- **Every command writes by checked operations only,** however it ends. -/
theorem checked_action (c : Setting) (r : Request) : Checked (action c r) := by
  cases r with
  | init => exact (Reads.pure "").checked
  | checkFilter expression => exact (Reads.pure "").checked
  | listAccounts => exact reads_listAccounts.checked
  | addAccount name => exact (checked_accountId name).bind_pure _
  | listCategories => exact reads_listCategories.checked
  | addCategory name order color => exact (checked_categoryId name order color).bind_pure _
  | listTags => exact reads_listTags.checked
  | addTag name color => exact (checked_tagId name color).bind_pure _
  | listTransactions filter limit => exact (reads_listTransactions _ _ _).checked
  | addTransaction e => exact checked_addTransaction e
  | tagTransaction id name => exact checked_tagTransaction id name
  | categorize id name => exact checked_categorize id name
  | searchFilter expression accounts limit => exact (reads_searchFilter _ _ _ _).checked
  | listFilters => exact reads_listFilters.checked
  | addFilter name expression => exact checked_addFilter name expression
  | deleteFilter id => exact checked_update (.deleteFilter id) (fun _ => trivial) (fun _ => rfl) _ _
  | listRules => exact reads_listRules.checked
  | addRule name filter category tags order => exact checked_addRule _ _ _ _ _
  | enableRule id enabled =>
      exact checked_update (.enableRule id enabled) (fun _ => trivial) (fun _ => rfl) _ _
  | deleteRule id => exact checked_update (.deleteRule id) (fun _ => trivial) (fun _ => rfl) _ _
  | previewRules accounts => exact (reads_previewRules _ _).checked
  | applyRules accounts => exact checked_applyRules _ _
  | showBudget month accounts => exact (reads_showBudget _ _ _ _).checked
  | setBudget name amount month => exact checked_setBudget _ _ _ _
  | listTargets date accounts => exact (reads_listTargets _ _ _ _).checked
  | addTarget name filter period amount => exact checked_addTarget _ _ _ _
  | overrideTarget id key amount => exact checked_overrideTarget id key amount
  | addOffset credit debit amount => exact checked_addOffset credit debit amount

/-- So does every command that is performed. -/
theorem checkedSteps_perform (c : Setting) (r : Request) (w : Bool) (s : Store) :
    CheckedSteps s (perform c r w s).2 := by
  rw [perform_eq_outcome]
  exact checked_action c r w s

/-- A command with what it runs with; what it may not write to is only read. -/
structure Call where
  setting : Setting
  request : Request
  writable : Bool

/-- The store after a row of commands, failing ones included. -/
def afterCalls (s : Store) (calls : List Call) : Store :=
  calls.foldl (fun s c => (perform c.setting c.request c.writable s).2) s

/-- **A row of commands writes by checked operations only.** -/
theorem checkedSteps_afterCalls (s : Store) (calls : List Call) :
    CheckedSteps s (afterCalls s calls) := by
  induction calls generalizing s with
  | nil => exact .refl
  | cons c rest ih => exact (checkedSteps_perform c.setting c.request c.writable s).trans (ih _)

end Coffer.Command
