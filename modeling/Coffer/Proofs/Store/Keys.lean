/-
**Records with distinct ids.**

If no two records of a list have the same id, then the order of the list does not matter for finding
a record by its id, and an index of the records finds what the list does.  A table stays like that
when a record is entered under a fresh id.

Main results:

* `Coffer.find?_id_eq_some_iff` — the record with an id is the one that is there;
* `Coffer.nodup_append_of_new`, `Coffer.map_rewrite` — what keeps the keys of a table distinct;
* `Coffer.Index.get?_ofRecords` — an index finds what its list does;
* `Coffer.Store.nodup_append_freshId` — a fresh id is a new one.
-/

import Coffer.Ledger.Index
import Coffer.Store.Tables
import Mathlib.Data.List.Nodup
import Mathlib.Tactic.SplitIfs

set_option autoImplicit false

namespace Coffer

variable {α : Type} {xs ys : List α}

section

variable {κ : Type} [BEq κ] [LawfulBEq κ] {id : α → κ}

/-- The record with an id is the one that is there.  An id may be whatever tells the records
apart. -/
theorem find?_id_eq_some_iff (h : (xs.map id).Nodup) {i : κ} {x : α} :
    xs.find? (fun y => id y == i) = some x ↔ x ∈ xs ∧ id x = i := by
  induction xs with
  | nil => simp
  | cons y rest ih =>
      obtain ⟨hy, hrest⟩ := List.nodup_cons.1 h
      by_cases hi : id y = i
      · rw [List.find?_cons_of_pos (by simpa using hi), Option.some_inj]
        constructor
        · rintro rfl
          exact ⟨by simp, hi⟩
        · rintro ⟨hx, hxi⟩
          rcases List.mem_cons.1 hx with rfl | hx
          · rfl
          · refine absurd ?_ hy
            rw [hi, ← hxi]
            exact List.mem_map_of_mem hx
      · rw [List.find?_cons_of_neg (by simpa using hi), ih hrest]
        constructor
        · rintro ⟨hx, hxi⟩
          exact ⟨List.mem_cons_of_mem y hx, hxi⟩
        · rintro ⟨hx, hxi⟩
          rcases List.mem_cons.1 hx with rfl | hx
          · exact absurd hxi hi
          · exact ⟨hx, hxi⟩

/-- The order of the records does not matter. -/
theorem find?_id_eq_of_perm (h : (xs.map id).Nodup) (hperm : xs.Perm ys) (i : κ) :
    xs.find? (fun y => id y == i) = ys.find? (fun y => id y == i) := by
  have hys : (ys.map id).Nodup := (hperm.map id).nodup_iff.1 h
  ext x
  rw [find?_id_eq_some_iff h, find?_id_eq_some_iff hys, hperm.mem_iff]

end

/-- What is left when the record with an id is deleted. -/
theorem find?_id_filter_ne (id : α → Int) (xs : List α) (i j : Int) :
    (xs.filter fun x => id x != j).find? (fun x => id x == i) =
      if i = j then none else xs.find? fun x => id x == i := by
  induction xs with
  | nil => simp
  | cons x rest ih =>
      by_cases hj : id x = j
      · rw [List.filter_cons_of_neg (by simpa using hj), ih]
        split_ifs with hi
        · rfl
        · rw [List.find?_cons_of_neg]
          simpa [hj] using Ne.symm hi
      · rw [List.filter_cons_of_pos (by simpa using hj)]
        by_cases hi : id x = i
        · have hid : (id x == i) = true := by simpa using hi
          simp only [List.find?_cons, hid]
          rw [if_neg (hi ▸ hj)]
        · have hid : (id x == i) = false := by simpa using hi
          simp only [List.find?_cons, hid]
          exact ih

/-! ### Tables with a key -/

section

variable {β : Type} {key : α → β} {x : α}

/-- A record with a new key can be entered. -/
theorem nodup_append_of_new (h : (xs.map key).Nodup) (hnew : ∀ y ∈ xs, key y ≠ key x) :
    ((xs ++ [x]).map key).Nodup := by
  rw [List.map_append, List.map_singleton]
  refine List.nodup_append.2 ⟨h, by simp, ?_⟩
  intro k hk k' hk' heq
  obtain ⟨y, hy, rfl⟩ := List.mem_map.1 hk
  exact hnew y hy (heq.trans (List.mem_singleton.1 hk'))

/-- Records that are rewritten in what is not their key keep their keys. -/
theorem map_rewrite {f : α → α} (h : ∀ x, key (f x) = key x) (xs : List α) :
    (xs.map f).map key = xs.map key := by
  rw [List.map_map]
  exact List.map_congr_left fun x _ => h x

theorem nodup_rewrite {f : α → α} (hs : (xs.map key).Nodup) (h : ∀ x, key (f x) = key x) :
    ((xs.map f).map key).Nodup := by
  rw [map_rewrite h]
  exact hs

end

namespace Index

variable {id : α → Int}

theorem get?_foldl_put (h : (xs.map id).Nodup) (m : Index α) (i : Int) :
    ((xs.map fun x => (id x, x)).foldl (fun m e => m.put e.1 e.2) m).get? i =
      (xs.find? fun y => id y == i).or (m.get? i) := by
  induction xs generalizing m with
  | nil => rfl
  | cons x rest ih =>
      obtain ⟨hx, hrest⟩ := List.nodup_cons.1 h
      rw [List.map_cons, List.foldl_cons, ih hrest, get?_put]
      by_cases hi : id x = i
      · have hnone : rest.find? (fun y => id y == i) = none := by
          refine List.find?_eq_none.2 fun y hy hyi => hx ?_
          rw [hi, ← eq_of_beq hyi]
          exact List.mem_map_of_mem hy
        rw [List.find?_cons_of_pos (by simpa using hi), hnone, if_pos hi]
        rfl
      · rw [List.find?_cons_of_neg (by simpa using hi), if_neg hi]

/-- **An index of records finds what their list does.** -/
theorem get?_ofRecords (h : (xs.map id).Nodup) (i : Int) :
    (ofRecords id xs).get? i = xs.find? fun y => id y == i := by
  rw [ofRecords, ofList, get?_foldl_put h, get?_empty, Option.or_none]

end Index

namespace Store

/-- A fresh id is a new one. -/
theorem nodup_append_freshId {ids : List Int} (h : ids.Nodup) : (ids ++ [freshId ids]).Nodup := by
  refine List.nodup_append.2 ⟨h, by simp, fun i hi j hj => ?_⟩
  have hlt := lt_freshId hi
  have hj := List.mem_singleton.1 hj
  omega

theorem freshId_notMem (ids : List Int) : freshId ids ∉ ids :=
  fun h => absurd (lt_freshId h) (Int.lt_irrefl _)

/-- A record that is entered under a fresh id is found by it. -/
theorem find?_id_append_fresh (id : α → Int) {x : α} (hx : id x = freshId (xs.map id)) :
    (xs ++ [x]).find? (fun y => id y == freshId (xs.map id)) = some x := by
  have hnone : xs.find? (fun y => id y == freshId (xs.map id)) = none := by
    refine List.find?_eq_none.2 fun y hy hid => freshId_notMem (xs.map id) ?_
    rw [← eq_of_beq hid]
    exact List.mem_map_of_mem hy
  rw [List.find?_append, hnone, Option.none_or, List.find?_cons_of_pos (by simpa using hx)]

end Store

end Coffer
