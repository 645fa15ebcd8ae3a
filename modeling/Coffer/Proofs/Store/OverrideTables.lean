/-
**The tables of amounts for single periods.**

There are two of them, and what is done to one is done to the other: an amount is written under the
key of its record and its period, over the one that is there, or as a new row.  So there stays one
row under each key, and every row is a row that was there or the one that is written.

Main definitions:

* `Coffer.OverrideTable.Sets` — the rows of a table after an amount is set;
* `Coffer.OverrideTable.Step` — a step that leaves the rows of a table or sets an amount.

Main results:

* `Coffer.find?_upsert` — **what is written under a key is read under it, and nothing else
  changes;**
* `Coffer.OverrideTable.of_override_eq_ok` — an amount is written under its key;
* `Coffer.OverrideTable.Step.nodup_keys`, `Coffer.OverrideTable.Step.forall_owners` — what every
  step keeps: one row under each key, and records for all rows.
-/

import Coffer.Proofs.Except
import Coffer.Proofs.Store.Keys
import Coffer.Store.Writing

set_option autoImplicit false

namespace Coffer

/-! ### Writing under a key -/

section

variable {α κ : Type} [DecidableEq κ] {key : α → κ} {new : α} {xs : List α}

/-- A record replaces those under its key, and the keys stay. -/
theorem map_key_replace (key : α → κ) (new : α) (xs : List α) :
    (xs.map fun a => if key a = key new then new else a).map key = xs.map key := by
  refine map_rewrite (fun a => ?_) xs
  split
  · next hkey => exact hkey.symm
  · rfl

/-- A record that is there after one is written was there, or is the one that was written. -/
theorem mem_or_eq_of_mem_upsert {a : α} (ha : a ∈ upsert key new xs) : a ∈ xs ∨ a = new := by
  unfold upsert at ha
  split at ha
  · obtain ⟨b, hb, rfl⟩ := List.mem_map.1 ha
    split
    · exact .inr rfl
    · exact .inl hb
  · rcases List.mem_append.1 ha with ha | ha
    · exact .inl ha
    · exact .inr (List.mem_singleton.1 ha)

/-- There stays one record under each key. -/
theorem nodup_upsert (h : (xs.map key).Nodup) : ((upsert key new xs).map key).Nodup := by
  unfold upsert
  split
  · rwa [map_key_replace]
  · next hnone =>
      refine nodup_append_of_new h fun a ha hkey => hnone ?_
      exact List.any_eq_true.2 ⟨a, ha, decide_eq_true hkey⟩

/-- What is found under a key after a record replaces those under its own. -/
theorem find?_replace (key : α → κ) (new : α) (k : κ) (xs : List α) :
    (xs.map fun a => if key a = key new then new else a).find? (fun a => decide (key a = k)) =
      (xs.find? fun a => decide (key a = k)).map fun a => if k = key new then new else a := by
  induction xs with
  | nil => rfl
  | cons a rest ih =>
      rw [List.map_cons]
      have hkey : key (if key a = key new then new else a) = key a := by
        split
        · next h => exact h.symm
        · rfl
      by_cases ha : key a = k
      · rw [List.find?_cons_of_pos (by simpa [hkey] using ha),
          List.find?_cons_of_pos (by simpa using ha), Option.map_some, ha]
      · rw [List.find?_cons_of_neg (by simpa [hkey] using ha),
          List.find?_cons_of_neg (by simpa using ha), ih]

/-- **What is written under a key is read under it, and nothing else changes.** -/
theorem find?_upsert (key : α → κ) (new : α) (k : κ) (xs : List α) :
    (upsert key new xs).find? (fun a => decide (key a = k)) =
      if k = key new then some new else xs.find? fun a => decide (key a = k) := by
  unfold upsert
  split
  · next hthere =>
      rw [find?_replace]
      split
      · next heq =>
          subst heq
          obtain ⟨a, ha⟩ := Option.isSome_iff_exists.1
            (List.find?_isSome.2 (List.any_eq_true.1 hthere))
          rw [ha, Option.map_some]
      · exact Option.map_id'
  · next hthere =>
      have hnone : xs.find? (fun a => decide (key a = key new)) = none :=
        List.find?_eq_none.2 fun a ha hk => hthere (List.any_eq_true.2 ⟨a, ha, hk⟩)
      rw [List.find?_append]
      split
      · next heq =>
          subst heq
          rw [hnone]
          simp
      · next hne =>
          rw [List.find?_cons_of_neg (by simpa using Ne.symm hne), List.find?_nil, Option.or_none]

end

/-! ### Setting an amount -/

namespace Store

theorem of_demand_eq_ok {isThere : Bool} {u : Unit} (h : demand isThere = .ok u) :
    isThere = true := by
  cases isThere with
  | false => cases h
  | true => rfl

/-- What is kept of an amount is a number. -/
theorem isNaN_of_keepAmount {column : String} {x amount : Float}
    (h : keepAmount column x = .ok amount) :
    amount.isNaN = false := by
  unfold keepAmount at h
  split at h
  · cases h
  · next hnumber =>
      split at h
      · cases h
        decide
      · cases h
        exact Bool.eq_false_iff.2 hnumber

end Store

namespace OverrideTable

variable {α : Type} {T : OverrideTable α} {s s' : Store} {rows : List α}

/-- The rows of a table after an amount is set for a record that is there. -/
inductive Sets (T : OverrideTable α) (s : Store) : List α → Prop
  | intro (key : Int × String) {x amount : Float}
      (hamount : Store.keepAmount T.column x = .ok amount)
      (howner : T.hasOwner s key.1 = true) :
      T.Sets s (upsert T.key (T.row key amount) (T.rows s))

/-- An amount is written under its key, and there is a record for it. -/
theorem of_override_eq_ok {key : Int × String} {x : Float} (h : s.override T key x = .ok s') :
    ∃ amount, Store.keepAmount T.column x = .ok amount ∧ T.hasOwner s key.1 = true ∧
      s' = T.put s (upsert T.key (T.row key amount) (T.rows s)) := by
  obtain ⟨amount, hamount, h⟩ := Except.of_bind_eq_ok h
  obtain ⟨u, howner, h⟩ := Except.of_bind_eq_ok h
  cases h
  exact ⟨amount, hamount, Store.of_demand_eq_ok howner, rfl⟩

theorem exists_sets_of_override {key : Int × String} {x : Float}
    (h : s.override T key x = .ok s') : ∃ rows, T.Sets s rows ∧ s' = T.put s rows := by
  obtain ⟨amount, hamount, howner, rfl⟩ := of_override_eq_ok h
  exact ⟨_, .intro key hamount howner, rfl⟩

/-- A row that is there after an amount is set has a key that was there, or the key of the
amount. -/
theorem exists_key_of_override {key : Int × String} {x : Float} (h : s.override T key x = .ok s')
    {o : α} (ho : o ∈ T.rows s') : (∃ o' ∈ T.rows s, T.key o' = T.key o) ∨ T.key o = key := by
  obtain ⟨amount, -, -, rfl⟩ := of_override_eq_ok h
  rw [T.rows_put] at ho
  rcases mem_or_eq_of_mem_upsert ho with ho | rfl
  · exact .inl ⟨o, ho, rfl⟩
  · exact .inr (T.key_row key amount)

/-- What holds of all rows and of the one that is written. -/
theorem Sets.forall_mem {P : α → Prop} (h : T.Sets s rows) (hs : ∀ o ∈ T.rows s, P o)
    (hnew : ∀ key x amount, Store.keepAmount T.column x = .ok amount →
      T.hasOwner s key.1 = true → P (T.row key amount)) : ∀ o ∈ rows, P o := by
  obtain ⟨key, hamount, howner⟩ := h
  intro o ho
  rcases mem_or_eq_of_mem_upsert ho with ho | rfl
  · exact hs o ho
  · exact hnew key _ _ hamount howner

/-- There stay numbers only. -/
theorem Sets.forall_numbers (h : T.Sets s rows) (hs : ∀ o ∈ T.rows s, (T.amount o).isNaN = false) :
    ∀ o ∈ rows, (T.amount o).isNaN = false := by
  refine h.forall_mem hs fun key x amount hamount _ => ?_
  rw [T.amount_row]
  exact Store.isNaN_of_keepAmount hamount

/-! ### Steps -/

/-- A step that leaves the rows of a table or sets an amount. -/
def Step (T : OverrideTable α) (s s' : Store) : Prop := T.rows s' = T.rows s ∨ T.Sets s (T.rows s')

/-- There stays one row under each key. -/
theorem Step.nodup_keys (h : T.Step s s') (hs : ((T.rows s).map T.key).Nodup) :
    ((T.rows s').map T.key).Nodup := by
  rcases h with hsame | hsets
  · rwa [hsame]
  · generalize T.rows s' = rows at hsets ⊢
    obtain ⟨key, hamount, howner⟩ := hsets
    exact nodup_upsert hs

/-- There stay records for all rows, if records that are there stay. -/
theorem Step.forall_owners (h : T.Step s s')
    (hkeeps : ∀ i, T.hasOwner s i = true → T.hasOwner s' i = true)
    (hs : ∀ o ∈ T.rows s, T.hasOwner s (T.key o).1 = true) :
    ∀ o ∈ T.rows s', T.hasOwner s' (T.key o).1 = true := by
  intro o ho
  refine hkeeps _ ?_
  rcases h with hsame | hsets
  · exact hs o (hsame ▸ ho)
  · refine hsets.forall_mem (P := fun o => T.hasOwner s (T.key o).1 = true) hs ?_ o ho
    rintro key x amount - howner
    rwa [T.key_row]

end OverrideTable

end Coffer
