/-
**When a record is found.**

Looking a record up leaves the store as it is.  It succeeds exactly if the record is there and can
be read, and it gives that record.

Main results: for each kind of look-up a lemma that says when it succeeds, from
`Coffer.Command.outcome_category_eq_ok_iff` to `Coffer.Command.outcome_readKey_eq_ok_iff`, and
`Coffer.Command.perform_eq_outcome`.
-/

import Coffer.Command.Perform
import Coffer.Proofs.Command.Actions
import Coffer.Proofs.Except

set_option autoImplicit false

namespace Coffer.Command

open Coffer.Command.Action (outcome_bind_eq_ok_iff outcome_get_eq_ok_iff outcome_demand_eq_ok_iff
  outcome_consult_eq_ok_iff)

variable {w : Bool} {s t : Store}

/-- What comes of a command is what comes of its action. -/
theorem perform_eq_outcome (c : Setting) (r : Request) (w : Bool) (s : Store) :
    perform c r w s = Steps.outcome ((action c r).run w) s := rfl

/-- What is demanded of the store as it is. -/
theorem outcome_demandOf_eq_ok_iff {α : Type} {message : String}
    {find? : Store → Option α} {x : α} :
    Steps.outcome ((do Action.demand message (find? (← get)) : Action α).run w) s = (.ok x, t) ↔
      find? s = some x ∧ t = s := by
  constructor
  · intro h
    obtain ⟨s₀, u, hget, hdemand⟩ := outcome_bind_eq_ok_iff.1 h
    obtain ⟨rfl, rfl⟩ := outcome_get_eq_ok_iff.1 hget
    exact outcome_demand_eq_ok_iff.1 hdemand
  · intro h
    exact outcome_bind_eq_ok_iff.2 ⟨s, s, rfl, outcome_demand_eq_ok_iff.2 h⟩

/-- A category is found by its name. -/
theorem outcome_category_eq_ok_iff {name : String} {c : Category} :
    Steps.outcome ((category name).run w) s = (.ok c, t) ↔ s.categoryNamed? name = some c ∧ t = s :=
  outcome_demandOf_eq_ok_iff

/-- A saved filter is found by what it is called. -/
theorem outcome_savedFilter_eq_ok_iff {called : String} {f : SavedFilter} :
    Steps.outcome ((savedFilter called).run w) s = (.ok f, t) ↔
      findFilter? s called = some f ∧ t = s :=
  outcome_demandOf_eq_ok_iff

/-- A transaction is found by its id, if its date can be read. -/
theorem outcome_transaction_eq_ok_iff {id : Int} {x : Transaction} :
    Steps.outcome ((transaction id).run w) s = (.ok x, t) ↔
      s.transaction? id = .ok (some x) ∧ t = s := by
  constructor
  · intro h
    obtain ⟨found, u, hread, hdemand⟩ := outcome_bind_eq_ok_iff.1 h
    obtain ⟨hread, rfl⟩ := outcome_consult_eq_ok_iff.1 hread
    obtain ⟨rfl, rfl⟩ := outcome_demand_eq_ok_iff.1 hdemand
    exact ⟨Except.mapError_eq_ok_iff.1 hread, rfl⟩
  · rintro ⟨hread, rfl⟩
    refine outcome_bind_eq_ok_iff.2 ⟨some x, t, ?_, outcome_demand_eq_ok_iff.2 ⟨rfl, rfl⟩⟩
    exact outcome_consult_eq_ok_iff.2 ⟨Except.mapError_eq_ok_iff.2 hread, rfl⟩

/-- A target is found by its id, if all targets can be read. -/
theorem outcome_target_eq_ok_iff {id : Int} {g : Target} :
    Steps.outcome ((target id).run w) s = (.ok g, t) ↔
      (∃ gs, s.listTargets = .ok gs ∧ gs.find? (·.id == id) = some g) ∧ t = s := by
  constructor
  · intro h
    obtain ⟨gs, u, hgs, hdemand⟩ := outcome_bind_eq_ok_iff.1 h
    obtain ⟨hgs, rfl⟩ := outcome_consult_eq_ok_iff.1 hgs
    obtain ⟨hfind, rfl⟩ := outcome_demand_eq_ok_iff.1 hdemand
    exact ⟨⟨gs, hgs, hfind⟩, rfl⟩
  · rintro ⟨⟨gs, hgs, hfind⟩, rfl⟩
    exact outcome_bind_eq_ok_iff.2
      ⟨gs, t, outcome_consult_eq_ok_iff.2 ⟨hgs, rfl⟩, outcome_demand_eq_ok_iff.2 ⟨hfind, rfl⟩⟩

/-- A key is read if it is one. -/
theorem outcome_readKey_eq_ok_iff {α : Type} {read : Except PeriodError α} {x : α} :
    Steps.outcome ((readKey read).run w) s = (.ok x, t) ↔ read = .ok x ∧ t = s := by
  unfold readKey
  rw [outcome_consult_eq_ok_iff, Except.mapError_eq_ok_iff]

end Coffer.Command
