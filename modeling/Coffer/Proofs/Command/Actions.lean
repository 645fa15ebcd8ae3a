/-
**Actions that read, and actions that write all or nothing.**

The steps of an action either look at the store, or write to it in one go.  An action that looks
first, writes once and then only answers leaves the store alone if it fails.

Main definitions:

* `Coffer.Command.Action.Reads`, `Coffer.Command.Action.AllOrNothing` — what holds of an action on a
  store that may be written, and on one that may not;
* `Coffer.Command.Action.Completes` — the action never fails.

Main results: for each kind of step a lemma on what comes of it, one on when it succeeds and one on
what it leaves alone, and the lemmas on one action after another.
-/

import Coffer.Command.Action
import Coffer.Proofs.Steps

set_option autoImplicit false

namespace Coffer.Command.Action

variable {α β : Type} {a : Action α} {f : α → Action β}

/-- The action leaves the store as it is. -/
def Reads (a : Action α) : Prop := ∀ w, Steps.Reads (a.run w)

/-- The action leaves the store as it is if it fails. -/
def AllOrNothing (a : Action α) : Prop := ∀ w, Steps.AllOrNothing (a.run w)

/-- The action never fails. -/
def Completes (a : Action α) : Prop := ∀ w, Steps.Completes (a.run w)

theorem outcome_consult (read : Store → Except Error α) (w : Bool) (s : Store) :
    Steps.outcome ((consult read).run w) s = match read s with
      | .ok x => (.ok x, s)
      | .error e => (.error (.ofError e), s) := by
  refine (Steps.outcome_bind_of_ok (Steps.outcome_get s)).trans ?_
  rcases read s with e | x <;> rfl

theorem outcome_consultFor (message : String) (read : Store → Except Error α) (w : Bool)
    (s : Store) :
    Steps.outcome ((consultFor message read).run w) s = match read s with
      | .ok x => (.ok x, s)
      | .error e => (.error (.dueTo message e), s) := by
  refine (Steps.outcome_bind_of_ok (Steps.outcome_get s)).trans ?_
  rcases read s with e | x <;> rfl

theorem outcome_update (w : Bool) (write : Store → α × Store) (s : Store) :
    Steps.outcome ((update write).run w) s =
      if w then (.ok (write s).1, (write s).2) else (.error (.ofError (.store .readOnly)), s) := by
  cases w <;> rfl

theorem outcome_attempt (write : Store → Except StoreError (α × Store)) (s : Store) :
    Steps.outcome ((attempt write).run true) s = match write s with
      | .ok (x, t) => (.ok x, t)
      | .error e => (.error (.ofError (.store e)), s) := by
  refine (Steps.outcome_bind_of_ok (Steps.outcome_get s)).trans ?_
  rcases write s with e | ⟨x, t⟩ <;> rfl

theorem outcome_attempt_false (write : Store → Except StoreError (α × Store)) (s : Store) :
    Steps.outcome ((attempt write).run false) s = (.error (.ofError (.store .readOnly)), s) := rfl

/-- What is there already is not written again. -/
theorem outcome_ensure {find? : Store → Option α} {write : Store → α × Store}
    (hfound : ∀ s x, find? s = some x → write s = (x, s)) (s : Store) :
    Steps.outcome ((ensure find? write).run true) s = (.ok (write s).1, (write s).2) := by
  refine (Steps.outcome_bind_of_ok (Steps.outcome_get s)).trans ?_
  cases hx : find? s with
  | some x =>
      rw [hfound s x hx]
      rfl
  | none => rfl

theorem reads_ensure_false (find? : Store → Option α) (write : Store → α × Store) :
    Steps.Reads ((ensure find? write).run false) := by
  refine Steps.Reads.get.bind fun s => ?_
  cases find? s with
  | some x => exact .pure x
  | none => exact .throw _

theorem reads_optionMapM {γ : Type} {g : γ → Action α} {w : Bool}
    (hg : ∀ x, Steps.Reads ((g x).run w)) (x : Option γ) : Steps.Reads ((x.mapM g).run w) := by
  cases x with
  | none => exact .pure none
  | some x => exact (hg x).bind fun y => .pure (some y)

/-! ### Actions that succeed -/

section

variable {w : Bool} {s t : Store} {x : α} {y : β}

/-- An action succeeds if its first part does and its second part does on what the first has
left. -/
theorem outcome_bind_eq_ok_iff :
    Steps.outcome ((a >>= f).run w) s = (.ok y, t) ↔
      ∃ x u, Steps.outcome (a.run w) s = (.ok x, u) ∧ Steps.outcome ((f x).run w) u = (.ok y, t) :=
  Steps.outcome_bind_eq_ok_iff

theorem outcome_pure_eq_ok_iff {x' : α} :
    Steps.outcome ((pure x' : Action α).run w) s = (.ok x, t) ↔ x' = x ∧ t = s := by
  constructor
  · intro h
    cases h
    exact ⟨rfl, rfl⟩
  · rintro ⟨rfl, rfl⟩
    rfl

theorem outcome_get_eq_ok_iff {s' : Store} :
    Steps.outcome ((get : Action Store).run w) s = (.ok s', t) ↔ s' = s ∧ t = s := by
  constructor
  · intro h
    cases h
    exact ⟨rfl, rfl⟩
  · rintro ⟨rfl, rfl⟩
    rfl

theorem outcome_demand_eq_ok_iff {message : String} {found : Option α} :
    Steps.outcome ((demand message found).run w) s = (.ok x, t) ↔ found = some x ∧ t = s := by
  cases found with
  | some x' => exact outcome_pure_eq_ok_iff.trans (by rw [Option.some_inj])
  | none => exact ⟨nofun, nofun⟩

theorem outcome_consult_eq_ok_iff {read : Store → Except Error α} :
    Steps.outcome ((consult read).run w) s = (.ok x, t) ↔ read s = .ok x ∧ t = s := by
  rw [outcome_consult]
  cases read s with
  | ok x' => simp [eq_comm]
  | error e => simp

theorem outcome_attempt_eq_ok_iff {write : Store → Except StoreError (α × Store)} :
    Steps.outcome ((attempt write).run w) s = (.ok x, t) ↔ w = true ∧ write s = .ok (x, t) := by
  cases w with
  | false => exact ⟨nofun, fun h => nomatch h.1⟩
  | true =>
      rw [outcome_attempt]
      rcases write s with e | ⟨x', t'⟩ <;> simp

theorem outcome_carry_eq_ok_iff {write : Store → Except StoreError Store} :
    Steps.outcome ((carry write).run w) s = (.ok (), t) ↔ w = true ∧ write s = .ok t := by
  unfold carry
  rw [outcome_attempt_eq_ok_iff]
  cases write s <;> simp [Except.map]

theorem outcome_failIf_eq_ok_iff {c : Prop} [Decidable c] {message : String} :
    Steps.outcome ((if c then fail message >>= fun _ : PUnit => a else a).run w) s = (.ok x, t) ↔
      ¬ c ∧ Steps.outcome (a.run w) s = (.ok x, t) := by
  by_cases hc : c
  · rw [if_pos hc]
    exact ⟨nofun, fun h => absurd hc h.1⟩
  · rw [if_neg hc]
    exact (and_iff_right hc).symm

/-- A row of actions that succeeds gives as many results. -/
theorem length_of_outcome_mapM {γ : Type} {g : γ → Action α} {xs : List γ} {ys : List α}
    (h : Steps.outcome ((xs.mapM g).run w) s = (.ok ys, t)) : ys.length = xs.length := by
  induction xs generalizing s ys with
  | nil =>
      cases h
      rfl
  | cons x rest ih =>
      rw [List.mapM_cons] at h
      obtain ⟨y, u, -, h⟩ := outcome_bind_eq_ok_iff.1 h
      obtain ⟨ys', u', hrest, h⟩ := outcome_bind_eq_ok_iff.1 h
      obtain ⟨rfl, rfl⟩ := outcome_pure_eq_ok_iff.1 h
      rw [List.length_cons, List.length_cons, ih hrest]

theorem isSome_of_outcome_optionMapM {γ : Type} {g : γ → Action α} {x' : Option γ} {y' : Option α}
    (h : Steps.outcome ((x'.mapM g).run w) s = (.ok y', t)) : y'.isSome = x'.isSome := by
  cases x' with
  | none =>
      cases h
      rfl
  | some x =>
      obtain ⟨y, u, -, h⟩ := outcome_bind_eq_ok_iff.1 h
      cases h
      rfl

end

/-! ### Actions that read -/

namespace Reads

theorem eq_of_outcome (ha : Reads a) {w : Bool} {s t : Store} {result : Except Failure α}
    (h : Steps.outcome (a.run w) s = (result, t)) : t = s :=
  (congrArg Prod.snd h).symm.trans (ha w s)

theorem pure (x : α) : Reads (Pure.pure x : Action α) := fun _ => .pure x

theorem throw (e : Failure) : Reads (throw e : Action α) := fun _ => .throw e

theorem get : Reads (MonadState.get : Action Store) := fun _ => .get

theorem bind (ha : Reads a) (hf : ∀ x, Reads (f x)) : Reads (a >>= f) :=
  fun w => (ha w).bind fun x => hf x w

theorem fail (message : String) : Reads (fail message : Action α) := throw _

theorem demand (message : String) (x : Option α) : Reads (demand message x) := by
  cases x with
  | some x => exact pure x
  | none => exact fail message

theorem consult (read : Store → Except Error α) : Reads (consult read) := by
  intro w s
  rw [outcome_consult]
  split <;> rfl

theorem consultFor (message : String) (read : Store → Except Error α) :
    Reads (consultFor message read) := by
  intro w s
  rw [outcome_consultFor]
  split <;> rfl

theorem demandWritable : Reads demandWritable := by
  intro w
  cases w with
  | true => exact .pure ()
  | false => exact .throw _

theorem ite {c : Prop} [Decidable c] {a' : Action α} (ha : Reads a) (ha' : Reads a') :
    Reads (if c then a else a') := by
  split
  · exact ha
  · exact ha'

theorem mapM {γ : Type} {g : γ → Action α} (hg : ∀ x, Reads (g x)) (xs : List γ) :
    Reads (xs.mapM g) := by
  induction xs with
  | nil => exact pure []
  | cons x rest ih =>
      rw [List.mapM_cons]
      exact (hg x).bind fun y => ih.bind fun ys => pure (y :: ys)

theorem optionMapM {γ : Type} {g : γ → Action α} (hg : ∀ x, Reads (g x)) (x : Option γ) :
    Reads (x.mapM g) := fun w => reads_optionMapM (fun y => hg y w) x

end Reads

/-! ### Actions that never fail -/

theorem Completes.pure (x : α) : Completes (Pure.pure x : Action α) := fun _ => .pure x

theorem Completes.ite {c : Prop} [Decidable c] {a' : Action α} (ha : Completes a)
    (ha' : Completes a') : Completes (if c then a else a') := by
  split
  · exact ha
  · exact ha'

/-! ### Actions that write all or nothing -/

theorem Reads.allOrNothing (ha : Reads a) : AllOrNothing a := fun w => (ha w).allOrNothing

namespace AllOrNothing

/-- What reads may come before. -/
theorem bind (ha : Reads a) (hf : ∀ x, AllOrNothing (f x)) : AllOrNothing (a >>= f) :=
  fun w => .bind (ha w) fun x => hf x w

/-- What never fails may come after. -/
theorem bind_completes (ha : AllOrNothing a) (hf : ∀ x, Completes (f x)) : AllOrNothing (a >>= f) :=
  fun w => (ha w).bind_completes fun x => hf x w

theorem bind_pure (ha : AllOrNothing a) (g : α → β) :
    AllOrNothing (a >>= fun x => Pure.pure (g x)) :=
  ha.bind_completes fun x => .pure (g x)

theorem ite {c : Prop} [Decidable c] {a' : Action α} (ha : AllOrNothing a) (ha' : AllOrNothing a') :
    AllOrNothing (if c then a else a') := by
  split
  · exact ha
  · exact ha'

/-- What fails on a condition may come before. -/
theorem failIf {c : Prop} [Decidable c] (message : String) (ha : AllOrNothing a) :
    AllOrNothing (if c then fail message >>= fun _ : PUnit => a else a) :=
  .ite (bind (.fail message) fun _ => ha) ha

theorem set (s : Store) : AllOrNothing (MonadState.set s : Action PUnit) := by
  intro w s' e t h
  cases h

theorem update (write : Store → α × Store) : AllOrNothing (update write) :=
  bind Reads.demandWritable fun _ => bind Reads.get fun s => (set (write s).2).bind_pure _

theorem ensure (find? : Store → Option α) (write : Store → α × Store) :
    AllOrNothing (ensure find? write) := by
  refine bind Reads.get fun s => ?_
  cases find? s with
  | some x => exact (Reads.pure x).allOrNothing
  | none => exact update write

theorem attempt (write : Store → Except StoreError (α × Store)) : AllOrNothing (attempt write) := by
  refine bind Reads.demandWritable fun _ => bind Reads.get fun s => ?_
  cases write s with
  | ok r => exact (set r.2).bind_pure _
  | error e => exact (Reads.throw _).allOrNothing

theorem carry (write : Store → Except StoreError Store) : AllOrNothing (carry write) := attempt _

end AllOrNothing

end Coffer.Command.Action
