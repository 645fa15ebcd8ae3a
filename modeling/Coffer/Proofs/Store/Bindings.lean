/-
**The tables of saved filters, rules and targets.**

Few operations touch saved filters, rules and targets: those that enter one under a fresh id, those
that delete a filter or a rule, and the one that enables or disables a rule.  All others leave the
three tables as they are.  In every store that operations have made from the empty one, no two
records of one of these tables have the same id.

Main definitions:

* `Coffer.Operation.touchesBindings` — the operations that can touch one of the three tables;
* `Coffer.Store.KeepsBindings` — the three tables are the same in two stores;
* `Coffer.Store.DistinctBindings` — the invariant of the three tables.

Main results:

* `Coffer.Store.keepsBindings_after` — what all other operations do to the three tables;
* `Coffer.Store.distinctBindings_run` — **the invariant holds after every row of operations.**
-/

import Coffer.Proofs.Store.Frames
import Coffer.Proofs.Store.Keys

set_option autoImplicit false

namespace Coffer

/-- Whether an operation can touch saved filters, rules or targets. -/
def Operation.touchesBindings : Operation → Bool
  | .addFilter _ _ | .deleteFilter _ | .addRule _ | .enableRule _ _ | .deleteRule _
  | .addTarget _ _ _ _ => true
  | _ => false

namespace Store

/-! ### Operations on other tables -/

/-- Saved filters, rules and targets are the same in two stores. -/
structure KeepsBindings (s s' : Store) : Prop where
  filters : s'.filters = s.filters
  rules : s'.rules = s.rules
  targets : s'.targets = s.targets

variable {s s' : Store}

/-- **All other operations leave the three tables as they are.** -/
theorem keepsBindings_after {op : Operation} (h : op.touchesBindings = false) :
    KeepsBindings s (s.after op) := by
  have htables : .filters ∉ op.tables ∧ .rules ∉ op.tables ∧ .targets ∉ op.tables := by
    cases op with
    | addFilter | deleteFilter | addRule | enableRule | deleteRule | addTarget => cases h
    | _ => simp [Operation.tables]
  have hsame := sameBut_after s op
  exact ⟨hsame .filters htables.1, hsame .rules htables.2.1, hsame .targets htables.2.2⟩

/-! ### Operations on the three tables -/

/-- Saving a filter fails, or adds it under a fresh id. -/
theorem addFilter_eq_ok {name expression : String} {i : Int}
    (h : s.addFilter name expression = .ok (i, s')) :
    i = freshId (s.filters.map SavedFilter.id) ∧
      s' = { s with filters := s.filters ++ [⟨i, name, expression⟩] } := by
  unfold addFilter at h
  split at h
  · cases h
  · cases h
    exact ⟨rfl, rfl⟩

/-- Entering a rule fails, or adds it under a fresh id. -/
theorem addRule_eq_ok {d : RuleDraft} {i : Int} (h : s.addRule d = .ok (i, s')) :
    i = freshId (s.rules.map Rule.id) ∧
      s' = { s with rules := s.rules ++
        [{ d with addTags := ascending d.addTags, id := i, enabled := true }] } := by
  obtain ⟨-, -, h⟩ := Except.of_bind_eq_ok h
  obtain ⟨-, -, h⟩ := Except.of_bind_eq_ok h
  cases h
  exact ⟨rfl, rfl⟩

/-- Entering a target fails, or adds it under a fresh id. -/
theorem addTarget_eq_ok {name : String} {filter : Int} {period : PeriodKind} {x : Float} {i : Int}
    (h : s.addTarget name filter period x = .ok (i, s')) :
    i = freshId (s.targets.map TargetRow.id) ∧
      ∃ amount,
        s' = { s with targets := s.targets ++ [⟨i, name, filter, period.name, amount⟩] } := by
  obtain ⟨amount, -, h⟩ := Except.of_bind_eq_ok h
  cases h
  exact ⟨rfl, amount, rfl⟩

/-- An operation with an id for an answer is refused, or leaves what its function leaves. -/
theorem after_of_map_withId (s : Store) (op : Operation) {x : Except StoreError (Int × Store)}
    (h : s.perform op = x.map withId) :
    s.after op = s ∨ ∃ i s', x = .ok (i, s') ∧ s.after op = s' := by
  unfold after
  rw [h]
  cases x with
  | error e => exact .inl rfl
  | ok r => exact .inr ⟨r.1, r.2, rfl, rfl⟩

/-! ### Distinct ids -/

/-- No two saved filters, no two rules and no two targets have the same id. -/
structure DistinctBindings (s : Store) : Prop where
  filters : (s.filters.map SavedFilter.id).Nodup
  rules : (s.rules.map Rule.id).Nodup
  targets : (s.targets.map TargetRow.id).Nodup

theorem DistinctBindings.of_keepsBindings (h : s.DistinctBindings) (hkeep : KeepsBindings s s') :
    s'.DistinctBindings where
  filters := hkeep.filters ▸ h.filters
  rules := hkeep.rules ▸ h.rules
  targets := hkeep.targets ▸ h.targets

/-- **Every operation keeps the ids distinct.** -/
theorem DistinctBindings.after (h : s.DistinctBindings) (op : Operation) :
    (s.after op).DistinctBindings := by
  cases op with
  | addFilter name e =>
      rcases after_of_map_withId s (.addFilter name e) rfl with heq | ⟨i, s', hadd, heq⟩
      · rwa [heq]
      · obtain ⟨rfl, rfl⟩ := addFilter_eq_ok hadd
        rw [heq]
        refine ⟨?_, h.rules, h.targets⟩
        simpa using nodup_append_freshId h.filters
  | deleteFilter i =>
      exact ⟨h.filters.sublist (List.filter_sublist.map _), h.rules, h.targets⟩
  | addRule d =>
      rcases after_of_map_withId s (.addRule d) rfl with heq | ⟨i, s', hadd, heq⟩
      · rwa [heq]
      · obtain ⟨rfl, rfl⟩ := addRule_eq_ok hadd
        rw [heq]
        refine ⟨h.filters, ?_, h.targets⟩
        simpa using nodup_append_freshId h.rules
  | enableRule i enabled =>
      exact ⟨h.filters, nodup_rewrite h.rules fun r => by split <;> rfl, h.targets⟩
  | deleteRule i =>
      exact ⟨h.filters, h.rules.sublist (List.filter_sublist.map _), h.targets⟩
  | addTarget name f p x =>
      rcases after_of_map_withId s (.addTarget name f p x) rfl with
        heq | ⟨i, s', hadd, heq⟩
      · rwa [heq]
      · obtain ⟨rfl, amount, rfl⟩ := addTarget_eq_ok hadd
        rw [heq]
        refine ⟨h.filters, h.rules, ?_⟩
        simpa using nodup_append_freshId h.targets
  | _ => exact h.of_keepsBindings (keepsBindings_after rfl)

theorem DistinctBindings.run (h : s.DistinctBindings) (ops : List Operation) :
    (s.run ops).DistinctBindings := by
  induction ops generalizing s with
  | nil => exact h
  | cons op rest ih => exact ih (h.after op)

/-- **The ids are distinct after every row of operations.** -/
theorem distinctBindings_run (ops : List Operation) : (run empty ops).DistinctBindings :=
  have hempty : DistinctBindings empty := ⟨List.nodup_nil, List.nodup_nil, List.nodup_nil⟩
  hempty.run ops

end Store

end Coffer
