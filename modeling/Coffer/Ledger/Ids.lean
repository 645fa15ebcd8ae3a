/-
**Ids in ascending order, each once.**

Main definitions: `Coffer.ascending`.

Main results:

* `Coffer.mem_ascending_iff` — putting ids in order neither adds nor loses any;
* `Coffer.pairwise_ascending` — each id is below the ids behind it.
-/

set_option autoImplicit false

namespace Coffer

/-- Puts an id in its place among ascending ids, unless it is there. -/
def insertId (i : Int) : List Int → List Int
  | [] => [i]
  | j :: rest => if i < j then i :: j :: rest else if i = j then j :: rest else j :: insertId i rest

/-- **The ids of a list, ascending and each once.** -/
def ascending (ids : List Int) : List Int := ids.foldl (fun acc i => insertId i acc) []

theorem mem_insertId {i j : Int} {ids : List Int} : j ∈ insertId i ids ↔ j = i ∨ j ∈ ids := by
  induction ids with
  | nil => simp [insertId]
  | cons k rest ih =>
      unfold insertId
      split
      · simp
      · split
        · next h => subst h; simp
        · simp only [List.mem_cons, ih]
          constructor
          · rintro (h | h | h) <;> simp [h]
          · rintro (h | h | h) <;> simp [h]

theorem mem_foldl_insertId {j : Int} (ids acc : List Int) :
    j ∈ ids.foldl (fun acc i => insertId i acc) acc ↔ j ∈ ids ∨ j ∈ acc := by
  induction ids generalizing acc with
  | nil => simp
  | cons i rest ih =>
      simp only [List.foldl_cons, ih, mem_insertId, List.mem_cons]
      constructor
      · rintro (h | h | h) <;> simp [h]
      · rintro ((h | h) | h) <;> simp [h]

/-- Putting ids in order neither adds nor loses any. -/
theorem mem_ascending_iff {i : Int} {ids : List Int} : i ∈ ascending ids ↔ i ∈ ids := by
  simp [ascending, mem_foldl_insertId]

theorem pairwise_insertId {ids : List Int} (h : ids.Pairwise (· < ·)) (i : Int) :
    (insertId i ids).Pairwise (· < ·) := by
  induction h with
  | nil => simp [insertId]
  | @cons j rest hj hrest ih =>
      unfold insertId
      split
      · next hlt =>
          refine .cons (fun k hk => ?_) (.cons hj hrest)
          rcases List.mem_cons.1 hk with rfl | hk
          · exact hlt
          · exact Int.lt_trans hlt (hj k hk)
      · split
        · exact .cons hj hrest
        · refine .cons (fun k hk => ?_) ih
          rcases mem_insertId.1 hk with rfl | hk
          · omega
          · exact hj k hk

/-- Each id is below the ids behind it. -/
theorem pairwise_ascending (ids : List Int) : (ascending ids).Pairwise (· < ·) := by
  suffices ∀ acc : List Int, acc.Pairwise (· < ·) →
      (ids.foldl (fun acc i => insertId i acc) acc).Pairwise (· < ·) from this [] .nil
  induction ids with
  | nil => exact fun acc h => h
  | cons i rest ih => exact fun acc h => ih _ (pairwise_insertId h i)

end Coffer
