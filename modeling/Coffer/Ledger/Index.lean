/-
**Maps from ids, listed by ascending id.**

Records refer to each other by id.  An index finds what belongs to an id, and lists its entries in
ascending order of ids; what is put in last under an id counts.

Main definitions: `Coffer.Index`, `Coffer.Index.put`, `Coffer.Index.get?`, `Coffer.Index.ofList`.

Main results: `Coffer.Index.get?_put` — reading back after writing.
-/

set_option autoImplicit false

namespace Coffer

/-- A map from ids, as its entries. -/
structure Index (α : Type) where
  entries : List (Int × α)

namespace Index

variable {α : Type}

/-- The map without entries. -/
def empty : Index α := ⟨[]⟩

/-- Puts an entry in its place among entries in ascending order. -/
def putEntry (i : Int) (a : α) : List (Int × α) → List (Int × α)
  | [] => [(i, a)]
  | (j, b) :: rest =>
    if i < j then (i, a) :: (j, b) :: rest
    else if i = j then (i, a) :: rest
    else (j, b) :: putEntry i a rest

/-- Puts `a` under the id `i`, in place of what was there. -/
def put (m : Index α) (i : Int) (a : α) : Index α := ⟨putEntry i a m.entries⟩

/-- What is under an id. -/
def get? (m : Index α) (i : Int) : Option α := (m.entries.find? fun e => e.1 == i).map Prod.snd

/-- The map of a list of entries; of two entries under one id the later counts. -/
def ofList (es : List (Int × α)) : Index α := es.foldl (fun m e => m.put e.1 e.2) empty

/-- The map of a list of records under their own ids. -/
def ofRecords (id : α → Int) (xs : List α) : Index α := ofList (xs.map fun x => (id x, x))

@[simp] theorem get?_empty (i : Int) : (empty : Index α).get? i = none := rfl

/-- Reading back after writing: the new entry under its id, the old entries elsewhere. -/
theorem get?_put (m : Index α) (i j : Int) (a : α) :
    (m.put i a).get? j = if i = j then some a else m.get? j := by
  obtain ⟨es⟩ := m
  simp only [get?, put]
  induction es with
  | nil => by_cases h : i = j <;> simp [putEntry, h]
  | cons e rest ih =>
      obtain ⟨k, b⟩ := e
      by_cases hlt : i < k
      · rw [putEntry, if_pos hlt]
        by_cases h : i = j <;> simp [h]
      · rw [putEntry, if_neg hlt]
        by_cases heq : i = k
        · subst heq
          by_cases h : i = j <;> simp [h]
        · rw [if_neg heq]
          by_cases hk : k = j
          · subst hk
            simp [heq]
          · simpa [List.find?_cons, hk] using ih

end Index

end Coffer
