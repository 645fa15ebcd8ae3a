/-
**Reports as JSON documents.**

Main definitions: `Coffer.Transaction.document`, `Coffer.Filter.document`,
`Coffer.BudgetLine.document`, `Coffer.TargetReport.document`, `Coffer.Rules.DryRun.document`,
`Coffer.Rules.Applied.document`.
-/

import Coffer.Filter.Canonical
import Coffer.Json
import Coffer.Report.Budget
import Coffer.Report.Target
import Coffer.Rules.Plan

set_option autoImplicit false

namespace Coffer

open Json (Item)

/-- A date as a document. -/
def Date.document (d : Date) : Item := .text d.iso

/-- A transaction as a document. -/
def Transaction.document (t : Transaction) : Item :=
  .object [("id", .integer t.id), ("account_id", .ofInteger? t.account), ("date", t.date.document),
    ("date_raw", .ofText? t.dateRaw), ("description", .text t.description),
    ("amount", .number t.amount), ("category_id", .ofInteger? t.category)]

/-! ### Filters -/

/-- The full name of a field. -/
def Field.fullName : Field → String
  | .category => "category"
  | .description => "description"
  | .account => "account"
  | .tag => "tag"
  | .date => "date"
  | .amount => "amount"

/-- The name of a comparison. -/
def Comparison.name : Comparison → String
  | .equal => "eq"
  | .greater => "gt"
  | .atLeast => "gte"
  | .less => "lt"
  | .atMost => "lte"

/-- The name of a precision. -/
def Precision.name : Precision → String
  | .year => "year"
  | .month => "month"
  | .day => "day"

/-- The name of a text scope. -/
def TextScope.name : TextScope → String
  | .description => "description"
  | .metadata => "metadata"

/-- A span as a document. -/
def Span.document (s : Span) : Item :=
  .object [("start", s.start.document), ("precision", .text s.precision.name)]

/-- A value as a document. -/
def Value.document : Value → Item
  | .text s => .object [("type", .text "text"), ("value", .text s)]
  | .amount x => .object [("type", .text "amount"), ("value", .number x)]
  | .amountRange low high =>
    .object [("type", .text "amount_range"), ("value", .list [.number low, .number high])]
  | .date span => .object [("type", .text "date"), ("value", span.document)]
  | .dateRange low high =>
    .object [("type", .text "date_range"), ("value", .list [low.document, high.document])]

/-- A predicate as a document. -/
def Predicate.document (p : Predicate) : Item :=
  .object [("field", .text p.field.fullName), ("op", .text p.comparison.name),
    ("value", p.value.document)]

namespace Filter

/-- A node of a tree as a document. -/
def node (kind : String) (content : Item) : Item :=
  .object [("kind", .text kind), ("node", content)]

mutual

/-- A filter as a document. -/
def document : Filter → Item
  | .field p => node "field" p.document
  | .all parts => node "and" (.list (documents parts))
  | .any parts => node "or" (.list (documents parts))
  | .text s scope => node "text" (.object [("text", .text s), ("scope", .text scope.name)])

/-- The documents of the parts of a filter. -/
def documents : List Filter → List Item
  | [] => []
  | f :: rest => document f :: documents rest

end

/-- What can be said about a filter text that reads as a filter. -/
def checkDocument (expression : String) (f : Filter) : Item :=
  .object [("expression", .text expression), ("canonical", .text f.canonical),
    ("has_field_predicate", .flag f.hasPredicate), ("leaf_count", .count f.leafCount),
    ("tree", f.document)]

end Filter

/-! ### Budgets and targets -/

/-- The entries of a balance. -/
def Balance.entries (b : Balance) : List (String × Item) :=
  [("budgeted", .number b.budgeted), ("overridden", .flag b.overridden), ("spent", .number b.spent),
    ("offsets", .number b.offsets), ("net_spent", .number b.netSpent),
    ("remaining", .number b.remaining), ("over_budget", .flag b.isOver)]

/-- A line of the budget report as a document. -/
def BudgetLine.document (l : BudgetLine) : Item :=
  .object ([("budget_id", .integer l.budget), ("category_id", .integer l.category),
    ("category_name", .text l.categoryName), ("month", .text l.month)] ++ l.balance.entries)

/-- A period as a document. -/
def Period.document (p : Period) : Item :=
  .object [("kind", .text p.kind.name), ("key", .text p.key), ("start", p.start.document),
    ("end", p.stop.document)]

/-- A line of the report on targets as a document. -/
def TargetLine.document (l : TargetLine) : Item :=
  .object ([("target_id", .integer l.target), ("name", .text l.name),
    ("period", l.period.document)] ++ l.balance.entries)

/-- A target that cannot be reported on as a document. -/
def TargetFailure.document (f : TargetFailure) : Item :=
  .object [("target_id", .integer f.target), ("name", .text f.name),
    ("reason", .text f.reason.message)]

/-- The report on targets as a document. -/
def TargetReport.document (r : TargetReport) : Item :=
  .object [("lines", .list (r.lines.map TargetLine.document)),
    ("failures", .list (r.failures.map TargetFailure.document))]

/-! ### Rules -/

/-- A rule with the number of transactions it selects as a document. -/
def RuleCount.document (c : RuleCount) : Item :=
  .object
    [("rule_id", .integer c.rule), ("rule_name", .text c.name), ("match_count", .count c.count)]

/-- A rule that cannot be applied as a document. -/
def RuleFailure.document (f : RuleFailure) : Item :=
  .object [("rule_id", .integer f.rule), ("rule_name", .text f.name),
    ("reason", .text f.reason.message)]

namespace Rules

/-- The number of rules that cannot be applied, and these rules. -/
def failureEntries (count : Nat) (fs : List RuleFailure) : List (String × Item) :=
  [("failed_rules", .count count), ("failures", .list (fs.map RuleFailure.document))]

/-- The summary of a dry run as a document. -/
def DryRunSummary.document (summary : DryRunSummary) : Item :=
  .object [("total_modified", .count summary.modified),
    ("total_cat_change", .count summary.categoryChanges),
    ("total_tag_change", .count summary.tagChanges)]

/-- A dry run as a document. -/
def DryRun.document (d : DryRun) : Item :=
  .object ([("per_rule", .list (d.perRule.map RuleCount.document)),
    ("summary", d.summary.document)] ++ failureEntries d.failedRules d.failures)

/-- What came of applying the rules as a document. -/
def Applied.document (a : Applied) : Item :=
  .object ([("updated", .count a.updated), ("category_changes", .count a.categoryChanges),
    ("tag_changes", .count a.tagChanges)] ++ failureEntries a.failedRules a.failures)

end Rules

end Coffer
