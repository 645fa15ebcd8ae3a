/-
**The report on spending targets.**

Every target is reported on for the period of its own length that holds the given day.  A target
whose filter does not exist or cannot be read is listed as a failure; the others are not affected.

Main definitions: `Coffer.TargetLine`, `Coffer.Ledger.targetLine`, `Coffer.Ledger.targetReport`.
-/

import Coffer.Error
import Coffer.Filter.Expression
import Coffer.Report.Spending

set_option autoImplicit false

namespace Coffer

/-- One line of the report: a target in a period. -/
structure TargetLine where
  target : Int
  name : String
  period : Period
  balance : Balance

/-- A target that cannot be reported on, and why. -/
structure TargetFailure where
  target : Int
  name : String
  reason : Error

/-- The lines and the failures of a report. -/
structure TargetReport where
  lines : List TargetLine
  failures : List TargetFailure

/-- The filter that a target is bound to. -/
def Target.boundFilter (savedFilters : Index SavedFilter) (g : Target) : Except Error Filter :=
  Filter.ofSaved savedFilters (.noTargetFilter g.filter g.name) (fun _ => Error.filter) g.filter

namespace Ledger

/-- The override of a target for a period; of several the first counts. -/
def targetOverride? (overrides : List TargetOverride) (target : Int) (period : String) :
    Option Float :=
  (overrides.find? fun o => o.target == target && o.period == period).map (·.amount)

/-- **The line of a target** for the period that holds a day. -/
def targetLine (l : Ledger) (savedFilters : Index SavedFilter) (overrides : List TargetOverride)
    (day : Date) (g : Target) : Except Error TargetLine := do
  let f ← g.boundFilter savedFilters
  let p := Period.containing g.period day
  return {
    target := g.id
    name := g.name
    period := p
    balance := Balance.of g.amount (targetOverride? overrides g.id p.key)
      (l.spending p fun t => f.selects (l.view t)) }

/-- Adds a target to a report in front of the targets behind it. -/
def addTarget (g : Target) (line : Except Error TargetLine) (r : TargetReport) : TargetReport :=
  match line with
  | .ok line => { r with lines := line :: r.lines }
  | .error e => { r with failures := ⟨g.id, g.name, e⟩ :: r.failures }

/-- **The report on a list of targets,** in its order. -/
def targetReport (l : Ledger) (savedFilters : Index SavedFilter) (overrides : List TargetOverride)
    (day : Date) (targets : List Target) : TargetReport :=
  targets.foldr (fun g => addTarget g (l.targetLine savedFilters overrides day g)) ⟨[], []⟩

end Ledger

end Coffer
