import Coffer.Command.Folder
import Coffer.Main
import Coffer.Proofs.Calendar.DateForms
import Coffer.Proofs.Calendar.DateOrder
import Coffer.Proofs.Calendar.DateText
import Coffer.Proofs.Calendar.KeyShapes
import Coffer.Proofs.Calendar.Keys
import Coffer.Proofs.Calendar.Periods
import Coffer.Proofs.Calendar.SpanDays
import Coffer.Proofs.Calendar.SpanText
import Coffer.Proofs.Command.Actions
import Coffer.Proofs.Command.AllOrNothing
import Coffer.Proofs.Command.ApplyRules
import Coffer.Proofs.Command.EntryDates
import Coffer.Proofs.Command.FilterNames
import Coffer.Proofs.Command.Listings
import Coffer.Proofs.Command.Lookups
import Coffer.Proofs.Command.Overrides
import Coffer.Proofs.Command.Runs
import Coffer.Proofs.Command.WellFormed
import Coffer.Proofs.Except
import Coffer.Proofs.Filter.Acceptance
import Coffer.Proofs.Filter.AmountRanges
import Coffer.Proofs.Filter.Built
import Coffer.Proofs.Filter.Composition
import Coffer.Proofs.Filter.DateTerms
import Coffer.Proofs.Filter.Descent
import Coffer.Proofs.Filter.Grammar
import Coffer.Proofs.Filter.NormalForm
import Coffer.Proofs.Filter.Occurrences
import Coffer.Proofs.Filter.Reading
import Coffer.Proofs.Filter.RoundTrip
import Coffer.Proofs.Filter.Saved
import Coffer.Proofs.Filter.Seams
import Coffer.Proofs.Filter.Terms
import Coffer.Proofs.Filter.Together
import Coffer.Proofs.Filter.Tokens
import Coffer.Proofs.Filter.Vacuity
import Coffer.Proofs.Number.Digits
import Coffer.Proofs.Number.Nearest
import Coffer.Proofs.Number.Order
import Coffer.Proofs.Number.PlainText
import Coffer.Proofs.Report.Agreement
import Coffer.Proofs.Report.BudgetSpec
import Coffer.Proofs.Report.Selection
import Coffer.Proofs.Report.TargetSpec
import Coffer.Proofs.Rules.Order
import Coffer.Proofs.Rules.Pass
import Coffer.Proofs.Rules.PlanSpec
import Coffer.Proofs.Rules.Settled
import Coffer.Proofs.Steps
import Coffer.Proofs.Store.Applying
import Coffer.Proofs.Store.Bindings
import Coffer.Proofs.Store.Changes
import Coffer.Proofs.Store.FilterIds
import Coffer.Proofs.Store.Frames
import Coffer.Proofs.Store.Integrity
import Coffer.Proofs.Store.Keys
import Coffer.Proofs.Store.Loading
import Coffer.Proofs.Store.Mutations
import Coffer.Proofs.Store.NameMatching
import Coffer.Proofs.Store.NewestFirst
import Coffer.Proofs.Store.OverrideTables
import Coffer.Proofs.Store.Overrides
import Coffer.Proofs.Store.Permanence
import Coffer.Proofs.Store.References
import Coffer.Proofs.Store.RuleListing
import Coffer.Proofs.Store.RuleTables
import Coffer.Proofs.Store.SecondPass
import Coffer.Proofs.Store.Sessions
import Coffer.Proofs.Store.WellFormed
import Coffer.Proofs.Text.Lowercase
import Coffer.Proofs.Text.WordEnds
import Coffer.Settings
import Coffer.Store.Texts
