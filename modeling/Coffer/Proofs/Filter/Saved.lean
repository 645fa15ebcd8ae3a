/-
**Filters that something is bound to.**

A rule and a target name a saved filter by its id.  There is a filter for them if the saved filter
is there and its text can be read, and otherwise there is one reason why there is none.  What they
say of the reason is their own.

Main definitions: `Coffer.Filter.Binds`, `Coffer.Filter.Lacks` — the filter under an id, or why
there is none.

Main results: `Coffer.Filter.ofSaved_eq_ok_iff`, `Coffer.Filter.ofSaved_eq_error_iff` — **the filter
that is found, and the reason that is given.**
-/

import Coffer.Filter.Expression
import Coffer.Proofs.Except

set_option autoImplicit false

namespace Coffer.Filter

variable {ε : Type} {savedFilters : Index SavedFilter} {missing : ε}
  {unreadable : SavedFilter → FilterError → ε} {i : Int}

/-- The saved filter with an id is there and can be read. -/
def Binds (savedFilters : Index SavedFilter) (i : Int) (f : Filter) : Prop :=
  ∃ saved, savedFilters.get? i = some saved ∧ parseBound saved.expression = .ok f

/-- Why there is no filter: the saved filter with an id is missing or cannot be read. -/
inductive Lacks (savedFilters : Index SavedFilter) (missing : ε)
    (unreadable : SavedFilter → FilterError → ε) (i : Int) : ε → Prop
  | noFilter : savedFilters.get? i = none → Lacks savedFilters missing unreadable i missing
  | badFilter {saved : SavedFilter} {e : FilterError} : savedFilters.get? i = some saved →
      parseBound saved.expression = .error e →
      Lacks savedFilters missing unreadable i (unreadable saved e)

theorem ofSaved_eq_ok_iff {f : Filter} :
    ofSaved savedFilters missing unreadable i = .ok f ↔ Binds savedFilters i f := by
  unfold ofSaved Binds
  cases savedFilters.get? i with
  | none => simp
  | some saved => simp [Except.mapError_eq_ok_iff]

theorem ofSaved_eq_error_iff {e : ε} :
    ofSaved savedFilters missing unreadable i = .error e ↔
      Lacks savedFilters missing unreadable i e := by
  unfold ofSaved
  constructor
  · intro h
    split at h
    · next saved hget =>
        cases hparse : parseBound saved.expression with
        | ok f => rw [hparse] at h; cases h
        | error e' =>
            rw [hparse] at h
            cases h
            exact .badFilter hget hparse
    · next hget =>
        cases h
        exact .noFilter hget
  · rintro (hget | ⟨hget, hparse⟩)
    · rw [hget]
    · simp only [hget, hparse]
      rfl

theorem Binds.unique {f f' : Filter} (h : Binds savedFilters i f) (h' : Binds savedFilters i f') :
    f = f' := by
  obtain ⟨saved, hget, hparse⟩ := h
  obtain ⟨saved', hget', hparse'⟩ := h'
  obtain rfl : saved = saved' := Option.some_inj.1 (hget.symm.trans hget')
  exact Except.ok.inj (hparse.symm.trans hparse')

theorem Lacks.unique {e e' : ε} (h : Lacks savedFilters missing unreadable i e)
    (h' : Lacks savedFilters missing unreadable i e') : e = e' :=
  Except.error.inj ((ofSaved_eq_error_iff.2 h).symm.trans (ofSaved_eq_error_iff.2 h'))

/-- There is not both a filter and a reason why there is none. -/
theorem Binds.not_lacks {f : Filter} {e : ε} (h : Binds savedFilters i f) :
    ¬ Lacks savedFilters missing unreadable i e := by
  intro h'
  cases (ofSaved_eq_ok_iff.2 h).symm.trans (ofSaved_eq_error_iff.2 h')

end Coffer.Filter
