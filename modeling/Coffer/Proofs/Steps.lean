/-
**Rows of steps on a state.**

A row of steps may end early.  What ends it is its result, and the state stays as the steps before
the end have left it: nothing is taken back by itself.

Main definitions:

* `Coffer.Steps`, `Coffer.Steps.outcome` — a row of steps, and what comes of it on a state;
* `Coffer.Steps.Reads` — the state is the same afterwards;
* `Coffer.Steps.AllOrNothing` — the state is the same afterwards if the row ends early;
* `Coffer.Steps.Completes` — the row never ends early.

Main results:

* `Coffer.Steps.outcome_bind` — one row of steps after another;
* `Coffer.Steps.outcome_bind_eq_ok_iff`, `Coffer.Steps.rel_outcome_bind` — what is known of a row by
  what is known of its parts;
* `Coffer.Steps.AllOrNothing.bind`, `Coffer.Steps.AllOrNothing.bind_completes` — **steps that write
  all or nothing may come after those that read, and before those that never end early.**
-/

set_option autoImplicit false

namespace Coffer

/-- **A row of steps on a state,** which may end early; the state is kept beside what ends it. -/
abbrev Steps (σ ε α : Type) : Type := ExceptT ε (StateM σ) α

namespace Steps

variable {σ ε α β : Type} {x : Steps σ ε α} {f : α → Steps σ ε β}

/-- What comes of a row of steps: its result, and the state after it. -/
def outcome (x : Steps σ ε α) (s : σ) : Except ε α × σ := (ExceptT.run x).run s

@[simp] theorem outcome_pure (a : α) (s : σ) : (pure a : Steps σ ε α).outcome s = (.ok a, s) := rfl

@[simp] theorem outcome_throw (e : ε) (s : σ) :
    (throw e : Steps σ ε α).outcome s = (.error e, s) := rfl

@[simp] theorem outcome_get (s : σ) : (get : Steps σ ε σ).outcome s = (.ok s, s) := rfl

@[simp] theorem outcome_set (t s : σ) : (set t : Steps σ ε PUnit).outcome s = (.ok ⟨⟩, t) := rfl

/-- **One row of steps after another.** -/
theorem outcome_bind (x : Steps σ ε α) (f : α → Steps σ ε β) (s : σ) :
    (x >>= f).outcome s = match x.outcome s with
      | (.ok a, t) => (f a).outcome t
      | (.error e, t) => (.error e, t) := by
  unfold outcome
  simp only [ExceptT.run_bind, StateT.run_bind]
  show (match x.run.run s with | (r, t) => _) = _
  rcases x.run.run s with ⟨_ | a, t⟩ <;> rfl

theorem outcome_tryCatch (x : Steps σ ε α) (h : ε → Steps σ ε α) (s : σ) :
    (tryCatch x h).outcome s = match x.outcome s with
      | (.ok a, t) => (.ok a, t)
      | (.error e, t) => (h e).outcome t := by
  unfold outcome
  simp only [ExceptT.run_tryCatch, StateT.run_bind]
  show (match x.run.run s with | (r, t) => _) = _
  rcases x.run.run s with ⟨_ | a, t⟩ <;> rfl

theorem outcome_bind_of_ok {a : α} {s t : σ} (h : x.outcome s = (.ok a, t)) :
    (x >>= f).outcome s = (f a).outcome t := by
  rw [outcome_bind, h]

theorem outcome_bind_of_error {e : ε} {s t : σ} (h : x.outcome s = (.error e, t)) :
    (x >>= f).outcome s = (.error e, t) := by
  rw [outcome_bind, h]

theorem exists_outcome_bind_of_ok {a : α} {s t u : σ} (h : x.outcome s = (.ok a, t))
    (hf : ∃ b, (f a).outcome t = (.ok b, u)) : ∃ b, (x >>= f).outcome s = (.ok b, u) := by
  rwa [outcome_bind_of_ok h]

/-- A row that ends early ends in its first part, or in the second one. -/
theorem of_outcome_bind_eq_error {e : ε} {s t : σ} (h : (x >>= f).outcome s = (.error e, t)) :
    x.outcome s = (.error e, t) ∨ ∃ a u,
      x.outcome s = (.ok a, u) ∧ (f a).outcome u = (.error e, t) := by
  rw [outcome_bind] at h
  rcases hx : x.outcome s with ⟨e' | a, u⟩
  · rw [hx] at h
    cases h
    exact .inl rfl
  · rw [hx] at h
    exact .inr ⟨a, u, rfl, h⟩

/-- A row that succeeds succeeds in both of its parts. -/
theorem outcome_bind_eq_ok_iff {b : β} {s t : σ} :
    (x >>= f).outcome s = (.ok b, t) ↔
      ∃ a u, x.outcome s = (.ok a, u) ∧ (f a).outcome u = (.ok b, t) := by
  constructor
  · intro h
    rw [outcome_bind] at h
    rcases hx : x.outcome s with ⟨e | a, u⟩
    · rw [hx] at h
      cases h
    · rw [hx] at h
      exact ⟨a, u, rfl, h⟩
  · rintro ⟨a, u, hx, hf⟩
    rw [outcome_bind_of_ok hx, hf]

/-- **What relates the states before and after each part relates those before and after the
row.** -/
theorem rel_outcome_bind {R : σ → σ → Prop} (htrans : ∀ {s t u}, R s t → R t u → R s u) {s : σ}
    (hx : R s (x.outcome s).2) (hf : ∀ a t, x.outcome s = (.ok a, t) → R t ((f a).outcome t).2) :
    R s ((x >>= f).outcome s).2 := by
  rw [outcome_bind]
  rcases h : x.outcome s with ⟨e | a, t⟩
  · rwa [h] at hx
  · rw [h] at hx
    exact htrans hx (hf a t h)

/-! ### Rows that read -/

/-- The state is the same after the row, however it ends. -/
def Reads (x : Steps σ ε α) : Prop := ∀ s, (x.outcome s).2 = s

theorem Reads.pure (a : α) : Reads (Pure.pure a : Steps σ ε α) := fun _ => rfl

theorem Reads.throw (e : ε) : Reads (throw e : Steps σ ε α) := fun _ => rfl

theorem Reads.get : Reads (get : Steps σ ε σ) := fun _ => rfl

theorem Reads.bind (hx : Reads x) (hf : ∀ a, Reads (f a)) : Reads (x >>= f) := by
  intro s
  have hs := hx s
  rw [outcome_bind]
  rcases h : x.outcome s with ⟨e | a, t⟩ <;> rw [h] at hs
  · exact hs
  · exact (hf a t).trans hs

/-- What ends early everywhere ends the row. -/
theorem Reads.bind_of_error {e : ε} (hx : ∀ s, x.outcome s = (.error e, s)) : Reads (x >>= f) :=
  fun s => congrArg Prod.snd (outcome_bind_of_error (hx s))

/-! ### Rows that write all or nothing -/

/-- The state is the same after the row if it ends early. -/
def AllOrNothing (x : Steps σ ε α) : Prop := ∀ s e t, x.outcome s = (.error e, t) → t = s

theorem Reads.allOrNothing (hx : Reads x) : AllOrNothing x := by
  intro s e t h
  rw [← hx s, h]

/-- **Steps that read may come before those that write.** -/
theorem AllOrNothing.bind (hx : Reads x) (hf : ∀ a, AllOrNothing (f a)) :
    AllOrNothing (x >>= f) := by
  intro s e t h
  rcases of_outcome_bind_eq_error h with h | ⟨a, u, hu, h⟩
  · exact hx.allOrNothing s e t h
  · have hus := hx s
    rw [hu] at hus
    exact (hf a u e t h).trans hus

/-- The row never ends early. -/
def Completes (x : Steps σ ε α) : Prop := ∀ s, ∃ a t, x.outcome s = (.ok a, t)

theorem Completes.pure (a : α) : Completes (Pure.pure a : Steps σ ε α) := fun s => ⟨a, s, rfl⟩

/-- **Steps that never end early may come behind those that write.** -/
theorem AllOrNothing.bind_completes (hx : AllOrNothing x) (hf : ∀ a, Completes (f a)) :
    AllOrNothing (x >>= f) := by
  intro s e t h
  rcases of_outcome_bind_eq_error h with h | ⟨a, u, -, h⟩
  · exact hx s e t h
  · obtain ⟨b, t', hb⟩ := hf a u
    rw [hb] at h
    cases h

end Steps

end Coffer
