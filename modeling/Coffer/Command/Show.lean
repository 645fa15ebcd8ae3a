/-
**Commands that show records and reports.**

A report is laid out in columns, or as a JSON document if this is asked for.  What has no records to
show says how to make some.

Main definitions: `Coffer.Command.Style` — how reports are written; one action for each command,
from `Coffer.Command.listAccounts` to `Coffer.Command.listTargets`, with
`Coffer.Command.applyRules`, which also writes; `Coffer.Command.checkFilter`.
-/

import Coffer.Command.Document
import Coffer.Command.Lookup
import Coffer.Settings
import Coffer.Text.Layout

set_option autoImplicit false

namespace Coffer.Command

open Text (padLeft padRight shorten)

/-- How reports are written. -/
structure Style where
  /-- Whether reports are JSON documents. -/
  json : Bool
  settings : Settings

/-- An amount with the currency symbol. -/
def Style.amount (style : Style) (x : Float) : String := style.settings.formatAmount x

/-! ### Parts -/

/-- A line of `width` strokes. -/
def stroke (width : Nat) : String := "   " ++ String.ofList (List.replicate width '─')

/-- A line under the title of a report. -/
def longStroke : String := stroke 61

/-- A line under the title of a list of names. -/
def shortStroke : String := stroke 29

/-- A document with the end of its line. -/
def document (i : Json.Item) : String := lines [i.layOut]

/-- A color in brackets, if there is one. -/
def colorMark : Option String → String
  | some color => " [" ++ color ++ "]"
  | none => ""

/-- An id in brackets at the start of a line. -/
def idMark (id : Int) : String := "   [" ++ toString id ++ "] "

/-! ### Names -/

/-- Shows the accounts. -/
def listAccounts : Action String := do
  match (← get).listAccounts with
  | [] => return lines ["No accounts yet. Add one with:", "  cinch accounts add Checking"]
  | accounts =>
    return lines (["", "🏦 Accounts", shortStroke] ++ accounts.map fun a => idMark a.id ++ a.name)

/-- Shows the categories. -/
def listCategories : Action String := do
  match (← get).listCategories with
  | [] => return lines ["No categories yet. Add one with:", "  cinch categories add Groceries"]
  | categories =>
    return lines (["", "📂 Categories", shortStroke] ++ categories.map fun c =>
      idMark c.id ++ c.name ++ colorMark c.color ++ " (order " ++ toString c.sortOrder ++ ")")

/-- Shows the tags. -/
def listTags : Action String := do
  match (← get).listTags with
  | [] => return lines ["No tags yet. Add one with:", "  cinch tags add travel"]
  | tags =>
    return lines (["", "🏷️  Tags", shortStroke] ++ tags.map fun t =>
      idMark t.id ++ t.name ++ colorMark t.color)

/-! ### Transactions -/

/-- A text between two escape sequences for a color. -/
def colored (code text : String) : String := "\x1b[" ++ code ++ "m" ++ text ++ "\x1b[0m"

/-- An amount in red if money went out, else in green with a plus sign. -/
def coloredAmount (style : Style) (t : Transaction) : String :=
  if t.isDebit then colored "31" (style.amount t.amount)
  else colored "32" ("+" ++ style.amount t.amount)

/-- The line of a transaction. -/
def transactionLine (style : Style) (catalog : Catalog) (t : Transaction) : String :=
  let name := ((t.category.bind catalog.categories.get?).map Category.name).getD "-"
  idMark t.id ++ t.date.iso ++ " │ " ++ padLeft 10 (coloredAmount style t) ++ " │ "
    ++ padRight 14 (shorten 14 name) ++ " │ " ++ shorten 40 t.description

/-- What is said when there are no transactions to show. -/
def noTransactions : Option String → List String
  | some expression => ["No transactions match '" ++ expression ++ "'."]
  | none =>
    ["No transactions found. Add one with:",
      "  cinch transactions add --date 2024-05-01 --amount -4.50 --desc COFFEE"]

/-- The transactions that a filter text finds; without one, all. -/
def found (n : Snapshot) : Option String → List Transaction
  | some expression => n.search .all expression
  | none => n.transactions

/-- **Shows the newest transactions,** at most so many. -/
def listTransactions (style : Style) (filter : Option String) (limit : Nat) : Action String := do
  let n ← snapshot
  let shown := (found n filter).take limit
  if style.json then return document (.list (shown.map Transaction.document))
  if shown.isEmpty then return lines (noTransactions filter)
  return lines (["", "📝 Recent Transactions", longStroke]
    ++ shown.map (transactionLine style n.catalog))

/-! ### Filters -/

/-- **Checks whether a text reads as a filter:** what is printed, and the complaint if it does
not. -/
def checkFilter (style : Style) (expression : String) : String × Option Failure :=
  match Filter.parse expression with
  | .ok none => (lines ["Empty expression: matches every transaction."], none)
  | .ok (some f) =>
    if style.json then (document (f.checkDocument expression), none)
    else
      (lines ["✅ Valid filter", "   Canonical: " ++ f.canonical,
        "   Terms:     " ++ toString f.leafCount,
        if f.hasPredicate then "   Free text matches descriptions only (field predicates present)"
        else "   Free text matches description, category, tags and dates"], none)
  | .error e =>
    let instead := match Filter.parseSearch expression with
      | some f => ["   Searches would treat it as free text: " ++ f.canonical]
      | none => []
    (lines (("❌ " ++ e.message) :: instead),
      some (.plain ("Invalid filter expression: " ++ e.message)))

/-- **Shows the transactions that a filter text finds,** at most so many. -/
def searchFilter (style : Style) (expression : String) (accounts : List String) (limit : Nat) :
    Action String := do
  let inScope ← scope style.settings.accounts accounts
  let n ← snapshot
  let all := n.search inScope expression
  let shown := all.take limit
  if style.json then return document (.list (shown.map Transaction.document))
  -- the head counts all that were found, the rest of the report those that are shown
  let more := if all.length > shown.length then
      ["   ... " ++ toString (all.length - shown.length) ++ " more (raise --limit to see them)"]
    else []
  return lines (["", "🔍 " ++ toString all.length ++ " matching transactions", longStroke]
    ++ shown.map (transactionLine style n.catalog) ++ more)

/-- The line of a saved filter, with a warning if its text does not read as a filter. -/
def filterLine (f : SavedFilter) : String :=
  let warning := match Filter.parseBound f.expression with
    | .ok _ => ""
    | .error e => "  ⚠️  " ++ e.message
  idMark f.id ++ padRight 20 (shorten 20 f.name) ++ " " ++ f.expression ++ warning

/-- Shows the saved filters. -/
def listFilters : Action String := do
  match (← get).listFilters with
  | [] =>
    return lines ["No saved filters. Add one with:",
      "  cinch filters add Coffee 'desc:coffee OR cat:Coffee'"]
  | filters => return lines (["", "💾 Saved Filters", longStroke] ++ filters.map filterLine)

/-! ### Rules -/

/-- The line of a rule. -/
def ruleLine (n : Snapshot) (r : Rule) : String :=
  let filter := match n.savedFilters.get? r.filter with
    | some f => f.name
    | none => "missing filter " ++ toString r.filter
  let category := match r.setCategory.bind n.catalog.categories.get? with
    | some c => " → " ++ c.name
    | none => ""
  let tags := match (r.addTags.filterMap n.catalog.tags.get?).map Tag.name with
    | [] => ""
    | names => " +[" ++ String.intercalate ", " names ++ "]"
  idMark r.id ++ "#" ++ toString r.sortOrder ++ " " ++ r.name ++ ": " ++ filter ++ category ++ tags
    ++ (if r.enabled then "" else " (disabled)")

/-- Shows the rules in the order in which they apply. -/
def listRules : Action String := do
  match (← get).listRules with
  | [] =>
    return lines ["No rules yet. Add one with:",
      "  cinch rules add coffee --filter Coffee --category Coffee"]
  | rules =>
    let n ← snapshot
    return lines (["", "📋 Rules (applied in order)", longStroke] ++ rules.map (ruleLine n))

/-- The lines on the rules that could not be applied. -/
def failureLines : List RuleFailure → List String
  | [] => []
  | fs => ["", "   ⚠️  " ++ toString fs.length ++ " rules could not run:"] ++ fs.map fun f =>
      "      [" ++ toString f.rule ++ "] " ++ f.name ++ ": " ++ f.reason.message

/-- Shows what applying the rules would change. -/
def previewRules (style : Style) (accounts : List String) : Action String := do
  let inScope ← scope style.settings.accounts accounts
  let n ← snapshot
  let d := n.dryRun inScope
  if style.json then return document d.document
  return lines (["", "🧪 Rule Dry Run", shortStroke]
    ++ d.perRule.map (fun c =>
      "   " ++ padRight 24 c.name ++ " " ++ padLeft 5 (toString c.count) ++ " matches")
    ++ ["", "   Would update:      " ++ toString d.summary.modified,
      "   Category changes:  " ++ toString d.summary.categoryChanges,
      "   Tag changes:       " ++ toString d.summary.tagChanges]
    ++ failureLines d.failures)

/-- **Applies the rules,** and shows what was changed. -/
def applyRules (style : Style) (accounts : List String) : Action String := do
  let inScope ← scope style.settings.accounts accounts
  let n ← snapshot
  let p := n.plan inScope
  -- where nothing is to be changed nothing is written
  let a ← if p.mutations.isEmpty then pure (.ofPlan p) else Action.attempt (n.apply inScope)
  if style.json then return document a.document
  let settled := if a.updated = 0 ∧ a.failedRules = 0 then
      ["", "✅ Everything already matches your rules."]
    else []
  return lines (["", "⚙️  Applied Rules", shortStroke,
      "   Updated:           " ++ toString a.updated,
      "   Category changes:  " ++ toString a.categoryChanges,
      "   Tag changes:       " ++ toString a.tagChanges]
    ++ failureLines a.failures ++ settled)

/-! ### Budgets and targets -/

/-- The warning at the end of the line of an amount that is used up. -/
def overMark (b : Balance) : String := if b.isOver then " ⚠️" else ""

/-- The line of a budget. -/
def budgetLine (style : Style) (l : BudgetLine) : String :=
  let column := fun x => " " ++ padLeft 11 (style.amount x)
  "   " ++ padRight 20 (shorten 20 l.categoryName) ++ " "
    ++ padLeft 10 (style.amount l.balance.budgeted) ++ (if l.balance.overridden then "*" else " ")
    ++ column l.balance.spent ++ column l.balance.offsets ++ column l.balance.remaining
    ++ overMark l.balance

/-- The sum of one column of the report. -/
def total (amount : Balance → Float) (ls : List BudgetLine) : Float :=
  ls.foldl (fun sum l => sum + amount l.balance) 0

/-- The lines under the report on budgets. -/
def totalLines (style : Style) (ls : List BudgetLine) : List String :=
  let budgeted := total Balance.budgeted ls
  let netSpent := total Balance.netSpent ls
  [longStroke,
    "   Total: " ++ style.amount budgeted ++ " budgeted, " ++ style.amount netSpent
      ++ " net spent, " ++ style.amount (budgeted - netSpent) ++ " remaining"]
    ++ if ls.any (·.balance.overridden) then ["   * overridden for this month"] else []

/-- The heads of the columns of the report on budgets. -/
def budgetHead : String :=
  "   " ++ padRight 20 "Category"
    ++ String.join (["Budgeted", "Spent", "Offsets", "Remaining"].map fun s => " " ++ padLeft 11 s)

/-- **Shows the budgets of a month.** -/
def showBudget (style : Style) (today : Date) (month : Option String) (accounts : List String) :
    Action String := do
  let key := month.getD (Period.containing .monthly today).key
  let inScope ← scope style.settings.accounts accounts
  let n ← snapshot
  let ls ← Action.consultFor ("Failed to compute budget for " ++ key)
    fun _ => (n.budgetLines inScope key).mapError Error.period
  if style.json then return document (.list (ls.map BudgetLine.document))
  if ls.isEmpty then
    return lines ["No budgets yet. Set one with:", "  cinch budget set Groceries 400"]
  return lines (["", "💰 Budget for " ++ key, longStroke, budgetHead]
    ++ ls.map (budgetLine style) ++ totalLines style ls)

/-- The line of a target. -/
def targetLine (style : Style) (l : TargetLine) : String :=
  idMark l.target ++ padRight 20 (shorten 20 l.name) ++ " " ++ padRight 8 l.period.key ++ " "
    ++ style.amount l.balance.netSpent ++ " of " ++ style.amount l.balance.budgeted
    ++ (if l.balance.overridden then " (override)" else "") ++ ", "
    ++ style.amount l.balance.remaining ++ " left" ++ overMark l.balance

/-- The line of a target that cannot be reported on. -/
def targetFailureLine (f : TargetFailure) : String :=
  idMark f.target ++ padRight 20 (shorten 20 f.name) ++ " ❌ " ++ f.reason.message

/-- The day for which targets are shown. -/
def reportDay (today : Date) : Option String → Action Date
  | none => return today
  | some text =>
    match DateLayout.iso.read text.toList with
    | .ok d => return d
    | .error e => throw ⟨"Invalid --date format (use YYYY-MM-DD)", [e.message]⟩

/-- **Shows the targets,** each for the period in which the day lies. -/
def listTargets (style : Style) (today : Date) (date : Option String) (accounts : List String) :
    Action String := do
  let day ← reportDay today date
  let inScope ← scope style.settings.accounts accounts
  let n ← snapshot
  let r := n.targetReport inScope day
  if style.json then return document r.document
  if r.lines.isEmpty ∧ r.failures.isEmpty then
    return lines ["No spending targets yet. Add one with:",
      "  cinch targets add Travel --filter Trips --period quarterly 1500"]
  return lines (["", "🎯 Spending Targets", longStroke]
    ++ r.lines.map (targetLine style) ++ r.failures.map targetFailureLine)

end Coffer.Command
