/-
**Steps that may fail.**

When a row of steps gives a result, each of its steps has given one.

Main results:

* `Coffer.Except.of_bind_eq_ok`, `Coffer.Except.of_map_eq_ok` — one step after another;
* `Coffer.Except.of_map_eq_ok_pair` — what is said of one part of a result;
* `Coffer.Except.mapError_eq_ok_iff` — a result under an error with another name;
* `Coffer.Except.of_foldlM_eq_ok`, `Coffer.Except.of_mem_foldlM_eq_ok` — what every step of a row
  keeps is kept by the row, also if one of its steps has brought it about;
* `Coffer.Except.exists_of_mapM_eq_ok` — every member of a list has given its result;
* `Coffer.Except.exists_mapM_eq_ok`, `Coffer.Except.map_eq_of_mapM_eq_ok`,
  `Coffer.Except.eq_filterMap_of_mapM_eq_ok` — if every member of a list gives one then so does the
  list, what a step keeps of its member is kept of the list, and its results are those of its
  members.
-/

set_option autoImplicit false

namespace Coffer.Except

variable {ε α β : Type} {x : Except ε α} {r : β}

/-- A step that follows another is taken from what that one gives. -/
theorem of_bind_eq_ok {f : α → Except ε β} (h : x >>= f = .ok r) :
    ∃ a, x = .ok a ∧ f a = .ok r := by
  cases x with
  | error e => cases h
  | ok a => exact ⟨a, rfl, h⟩

theorem of_map_eq_ok {f : α → β} (h : x.map f = .ok r) : ∃ a, x = .ok a ∧ f a = r := by
  cases x with
  | error e => cases h
  | ok a =>
      cases h
      exact ⟨a, rfl, rfl⟩

/-- An error with another name is an error still. -/
theorem mapError_eq_ok_iff {ε' : Type} {x : Except ε α} {f : ε → ε'} {a : α} :
    x.mapError f = .ok a ↔ x = .ok a := by
  cases x with
  | error e => exact ⟨nofun, nofun⟩
  | ok a' =>
      constructor
      · rintro ⟨⟩
        rfl
      · rintro ⟨⟩
        rfl

/-- What holds of the second part of any result holds of the second part of this one. -/
theorem of_map_eq_ok_pair {γ : Type} {f : α → γ × β} {P : β → Prop} {c : γ}
    (h : x.map f = .ok (c, r)) (hx : ∀ a, x = .ok a → P (f a).2) : P r := by
  obtain ⟨a, ha, heq⟩ := of_map_eq_ok h
  have hpart := hx a ha
  rwa [heq] at hpart

/-- What every step of a row keeps is kept by the row. -/
theorem of_foldlM_eq_ok {step : β → α → Except ε β} {P : β → Prop}
    (hstep : ∀ {b a b'}, P b → step b a = .ok b' → P b') {xs : List α} {b : β} (hb : P b)
    (h : xs.foldlM step b = .ok r) : P r := by
  induction xs generalizing b with
  | nil =>
      cases h
      exact hb
  | cons a rest ih =>
      rw [List.foldlM_cons] at h
      obtain ⟨b', hb', h⟩ := of_bind_eq_ok h
      exact ih (hstep hb hb') h

/-- What one step of a row brings about, and the others keep, holds at the end of the row. -/
theorem of_mem_foldlM_eq_ok {step : β → α → Except ε β} {P : β → Prop} {xs : List α} {a : α}
    (hkeep : ∀ {b a b'}, P b → step b a = .ok b' → P b')
    (hreach : ∀ {b b'}, step b a = .ok b' → P b')
    (ha : a ∈ xs) {b : β} (h : xs.foldlM step b = .ok r) : P r := by
  induction xs generalizing b with
  | nil => cases ha
  | cons a' rest ih =>
      rw [List.foldlM_cons] at h
      obtain ⟨b', hb', hrest⟩ := of_bind_eq_ok h
      rcases List.mem_cons.1 ha with rfl | ha
      · exact of_foldlM_eq_ok hkeep (hreach hb') hrest
      · exact ih ha hrest

/-- Every member of a list has given its result. -/
theorem exists_of_mapM_eq_ok {f : α → Except ε β} {xs : List α} {ys : List β}
    (h : xs.mapM f = .ok ys) {a : α} (ha : a ∈ xs) : ∃ b ∈ ys, f a = .ok b := by
  induction xs generalizing ys with
  | nil => cases ha
  | cons a' rest ih =>
      rw [List.mapM_cons] at h
      obtain ⟨b, hb, h⟩ := of_bind_eq_ok h
      obtain ⟨bs, hbs, h⟩ := of_bind_eq_ok h
      cases h
      rcases List.mem_cons.1 ha with rfl | ha
      · exact ⟨b, by simp, hb⟩
      · obtain ⟨b', hb', hf⟩ := ih hbs ha
        exact ⟨b', by simp [hb'], hf⟩

/-- A list gives its results if every member of it does. -/
theorem exists_mapM_eq_ok {f : α → Except ε β} {xs : List α} (h : ∀ a ∈ xs, ∃ b, f a = .ok b) :
    ∃ ys, xs.mapM f = .ok ys := by
  induction xs with
  | nil => exact ⟨[], rfl⟩
  | cons a rest ih =>
      obtain ⟨b, hb⟩ := h a (by simp)
      obtain ⟨bs, hbs⟩ := ih fun a' ha' => h a' (by simp [ha'])
      refine ⟨b :: bs, ?_⟩
      rw [List.mapM_cons, hb, hbs]
      rfl

/-- What a step keeps of its member is kept of the list. -/
theorem map_eq_of_mapM_eq_ok {γ : Type} {f : α → Except ε β} {k : α → γ} {k' : β → γ}
    (hf : ∀ a b, f a = .ok b → k' b = k a) {xs : List α} {ys : List β} (h : xs.mapM f = .ok ys) :
    ys.map k' = xs.map k := by
  induction xs generalizing ys with
  | nil => cases h; rfl
  | cons a rest ih =>
      rw [List.mapM_cons] at h
      obtain ⟨b, hb, h⟩ := of_bind_eq_ok h
      obtain ⟨bs, hbs, h⟩ := of_bind_eq_ok h
      cases h
      rw [List.map_cons, List.map_cons, hf a b hb, ih hbs]

/-- The results of a list are those of its members. -/
theorem eq_filterMap_of_mapM_eq_ok {f : α → Except ε β} {xs : List α} {ys : List β}
    (h : xs.mapM f = .ok ys) : ys = xs.filterMap fun a => (f a).toOption := by
  induction xs generalizing ys with
  | nil => cases h; rfl
  | cons a rest ih =>
      rw [List.mapM_cons] at h
      obtain ⟨b, hb, h⟩ := of_bind_eq_ok h
      obtain ⟨bs, hbs, h⟩ := of_bind_eq_ok h
      cases h
      rw [List.filterMap_cons, hb, ← ih hbs]
      rfl

/-- A step that commutes with a change of its member commutes with the change of all members. -/
theorem mapM_map_eq_ok {f : α → Except ε β} {g : α → α} {k : β → β}
    (hf : ∀ a b, f a = .ok b → f (g a) = .ok (k b)) {xs : List α} {ys : List β}
    (h : xs.mapM f = .ok ys) : (xs.map g).mapM f = .ok (ys.map k) := by
  induction xs generalizing ys with
  | nil => cases h; rfl
  | cons a rest ih =>
      rw [List.mapM_cons] at h
      obtain ⟨b, hb, h⟩ := of_bind_eq_ok h
      obtain ⟨bs, hbs, h⟩ := of_bind_eq_ok h
      cases h
      rw [List.map_cons, List.mapM_cons, hf a b hb, ih hbs]
      rfl

end Coffer.Except
