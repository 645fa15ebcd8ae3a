/-
**Commands that enter and change records.**

Each answers with what it prints.  Records are looked up before anything is written; accounts,
categories and tags of a new transaction are made as they are needed, one step after the other.

Main definitions: one action for each command, from `Coffer.Command.addAccount` to
`Coffer.Command.addOffset`, and `Coffer.Command.readDate` — the date of a new transaction.
-/

import Coffer.Command.Invocation
import Coffer.Command.Lookup
import Coffer.Filter.Expression
import Coffer.Number.Written
import Coffer.Settings

set_option autoImplicit false

namespace Coffer.Command

/-! ### Names -/

/-- What is said of a record that is there now. -/
def nowThere (kind name : String) (id : Int) : String :=
  lines ["✅ " ++ kind ++ " '" ++ name ++ "' (id: " ++ toString id ++ ")"]

/-- The id of the account of a name, which is made if need be. -/
def accountId (name : String) : Action Int :=
  Action.ensure (fun s => (s.accountNamed? name).map Account.id) (Store.ensureAccount name)

/-- The id of the category of a name, which is made if need be. -/
def categoryId (name : String) (order : Int) (color : Option String) : Action Int :=
  Action.ensure (fun s => (s.categoryNamed? name).map Category.id)
    (Store.ensureCategory name order color)

/-- The id of the tag of a name, which is made if need be. -/
def tagId (name : String) (color : Option String) : Action Int :=
  Action.ensure (fun s => (s.tagNamed? name).map Tag.id) (Store.ensureTag name color)

/-- Adds an account. -/
def addAccount (name : String) : Action String := do
  return nowThere "Account" name (← accountId name)

/-- Adds a category. -/
def addCategory (name : String) (order : Int) (color : Option String) : Action String := do
  return nowThere "Category" name (← categoryId name order color)

/-- Adds a tag. -/
def addTag (name : String) (color : Option String) : Action String := do
  return nowThere "Tag" name (← tagId name color)

/-! ### Transactions -/

/-- **Reads the date of a new transaction:** year, month and day, or else month, day and year
between slashes. A date in the second form is also kept as it is written. -/
def readDate (text : String) : Except DateError (Date × Option String) :=
  match DateLayout.iso.read text.toList with
  | .ok d => .ok (d, none)
  | .error _ => (DateLayout.slashed.read text.toList).map fun d => (d, some text)

/-- The date of a new transaction. -/
def entryDate (text : String) : Action (Date × Option String) :=
  match readDate text with
  | .ok d => return d
  | .error e => throw ⟨"Invalid --date format (use YYYY-MM-DD or MM/DD/YYYY)", [e.message]⟩

/-- Attaches a tag, which is made if need be, to a transaction. -/
def attachTagNamed (id : Int) (name : String) : Action Unit := do
  let t ← tagId name none
  Action.carry (Store.attachTag id t .manual)

/-- **Adds a transaction** with its account, its category and its tags. -/
def addTransaction (e : Entry) : Action String := do
  let (date, dateRaw) ← entryDate e.date
  -- what is made from here on stays, also if a later step fails
  let account ← e.account.mapM accountId
  let category ← e.category.mapM fun name => categoryId name 0 none
  let id ← Action.attempt (Store.addTransaction
    { account := account, date := date, dateRaw := dateRaw, description := e.description,
      amount := e.amount, category := category })
  e.tags.forM (attachTagNamed id)
  return lines ["✅ Added transaction " ++ toString id ++ ": " ++ date.iso ++ " │ "
    ++ Binary64.cents e.amount ++ " │ " ++ e.description]

/-- Attaches a tag to a transaction. -/
def tagTransaction (id : Int) (name : String) : Action String := do
  let t ← transaction id
  let g ← tag name
  Action.carry (Store.attachTag t.id g.id .manual)
  return lines ["✅ Tagged transaction " ++ toString id ++ " with '" ++ g.name ++ "'"]

/-- Sets the category of a transaction, or clears it. -/
def categorize (id : Int) (name : Option String) : Action String := do
  let t ← transaction id
  match name with
  | some name =>
    let c ← category name
    Action.carry (Store.categorize t.id (some c.id))
    return lines ["✅ Transaction " ++ toString id ++ " → " ++ c.name]
  | none =>
    Action.carry (Store.categorize t.id none)
    return lines ["✅ Cleared category on transaction " ++ toString id]

/-! ### Filters and rules -/

/-- Saves a filter. A text that does not read as a filter is saved all the same, with a warning. -/
def addFilter (name expression : String) : Action String := do
  let id ← Action.attempt (Store.addFilter name expression)
  let warning := match Filter.parseBound expression with
    | .ok _ => []
    | .error e =>
      ["   ⚠️  Expression does not parse: " ++ e.message,
        "   Rules and targets using it will be reported as failed until it is fixed."]
  return lines (("✅ Saved filter '" ++ name ++ "' (id: " ++ toString id ++ ")") :: warning)

/-- Deletes a saved filter. -/
def deleteFilter (id : Int) : Action String := do
  if ← Action.update (Store.deleteFilter id) then
    return lines ["✅ Deleted saved filter " ++ toString id]
  else Action.fail ("Saved filter " ++ toString id ++ " not found")

/-- Adds a rule. -/
def addRule (name filter : String) (categoryName : Option String) (tags : List String)
    (order : Int) : Action String := do
  if categoryName.isNone ∧ tags.isEmpty then
    Action.fail "A rule needs --category, --tag, or both"
  let saved ← savedFilter filter
  let c ← categoryName.mapM category
  let gs ← tags.mapM tag
  let id ← Action.attempt (Store.addRule
    { name := name, filter := saved.id, setCategory := c.map Category.id,
      addTags := gs.map Tag.id, sortOrder := order })
  return lines ["✅ Created rule '" ++ name ++ "' (id: " ++ toString id ++ ") using filter '"
    ++ saved.name ++ "'"]

/-- The complaint about a missing rule. -/
def noRule (id : Int) : String := "Rule " ++ toString id ++ " not found"

/-- Enables or disables a rule. -/
def enableRule (id : Int) (enabled : Bool) : Action String := do
  if ← Action.update (Store.enableRule id enabled) then
    return lines [(if enabled then "✅ Enabled rule " else "✅ Disabled rule ") ++ toString id]
  else Action.fail (noRule id)

/-- Deletes a rule. -/
def deleteRule (id : Int) : Action String := do
  if ← Action.update (Store.deleteRule id) then return lines ["✅ Deleted rule " ++ toString id]
  else Action.fail (noRule id)

/-! ### Budgets, targets and offsets -/

/-- What is read of a key, or the end of the action. -/
def readKey {α : Type} (read : Except PeriodError α) : Action α :=
  Action.consult fun _ => read.mapError Error.period

/-- Sets the budget of a category, or its amount for one month. -/
def setBudget (settings : Settings) (name : String) (amount : Float) (month : Option String) :
    Action String := do
  let c ← category name
  match month with
  | some month =>
    let p ← readKey (Period.ofMonthKey month)
    let b ← Action.demand ("'" ++ c.name ++ "' has no budget to override. Set one first: "
      ++ "cinch budget set " ++ c.name ++ " AMOUNT") ((← get).budgetOf? c.id)
    Action.carry (Store.overrideBudget b.id p.key amount)
    return lines ["✅ " ++ c.name ++ " budget for " ++ p.key ++ " set to "
      ++ settings.formatAmount amount]
  | none =>
    let _ ← Action.attempt (Store.setBudget c.id amount)
    return lines ["✅ " ++ c.name ++ " monthly budget set to " ++ settings.formatAmount amount]

/-- Adds a target. -/
def addTarget (name filter period : String) (amount : Float) : Action String := do
  let kind ← Action.demand (PeriodKind.unknown period) (PeriodKind.ofName? period)
  let saved ← savedFilter filter
  let id ← Action.attempt (Store.addTarget name saved.id kind amount)
  return lines ["✅ Created " ++ kind.name ++ " target '" ++ name ++ "' (id: " ++ toString id
    ++ ") using filter '" ++ saved.name ++ "'"]

/-- Sets the amount of a target for one period, which must be of its length. -/
def overrideTarget (id : Int) (key : String) (amount : Float) : Action String := do
  let g ← target id
  let p ← readKey (Period.ofKey key)
  if p.kind ≠ g.period then
    Action.fail ("'" ++ key ++ "' is a " ++ p.kind.name ++ " key but target '" ++ g.name ++ "' is "
      ++ g.period.name)
  Action.carry (Store.overrideTarget id p.key amount)
  return lines ["✅ Target '" ++ g.name ++ "' for " ++ p.key ++ " set to " ++ Binary64.cents amount]

/-- Records how much of a credit makes up for a debit. -/
def addOffset (credit debit : Int) (amount : Float) : Action String := do
  let c ← transaction credit
  let d ← transaction debit
  if c.isDebit then Action.fail ("Transaction " ++ toString credit ++ " is not a credit")
  if !d.isDebit then Action.fail ("Transaction " ++ toString debit ++ " is not a debit")
  -- what is not a number passes here, and the store refuses it
  if amount ≤ 0 then Action.fail "Offset amount must be positive"
  let id ← Action.attempt (Store.addOffset credit debit amount)
  return lines ["✅ Offset " ++ toString id ++ ": " ++ Binary64.cents amount ++ " of '"
    ++ c.description ++ "' against '" ++ d.description ++ "'"]

end Coffer.Command
