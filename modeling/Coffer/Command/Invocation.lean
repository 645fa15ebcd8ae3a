/-
**What the user asks for.**

The arguments of the command line make an invocation: a command with its values, and what holds for
every command.  A value that is no number where a number is asked for, a value too many and a value
that is missing are errors of usage.

Main definitions: `Coffer.Command.Request` — a command with its values; `Coffer.Command.Invocation`;
`Coffer.Command.invocation` — reads the arguments.
-/

import Coffer.Command.Grammar
import Coffer.Number.Reading

set_option autoImplicit false

namespace Coffer.Command

/-- A transaction as it is given on the command line. -/
structure Entry where
  date : String
  amount : Float
  description : String
  account : Option String
  category : Option String
  tags : List String
  deriving DecidableEq

/-- **A command with its values.** -/
inductive Request where
  | init
  | listAccounts
  | addAccount (name : String)
  | listCategories
  | addCategory (name : String) (order : Int) (color : Option String)
  | listTags
  | addTag (name : String) (color : Option String)
  | listTransactions (filter : Option String) (limit : Nat)
  | addTransaction (entry : Entry)
  | tagTransaction (id : Int) (tag : String)
  /-- Sets the category of a transaction, or clears it. -/
  | categorize (id : Int) (category : Option String)
  | checkFilter (expression : String)
  | searchFilter (expression : String) (accounts : List String) (limit : Nat)
  | listFilters
  | addFilter (name expression : String)
  | deleteFilter (id : Int)
  | listRules
  /-- Adds a rule; its filter is given by id or by name. -/
  | addRule (name filter : String) (category : Option String) (tags : List String) (order : Int)
  | enableRule (id : Int) (enabled : Bool)
  | deleteRule (id : Int)
  | previewRules (accounts : List String)
  | applyRules (accounts : List String)
  | showBudget (month : Option String) (accounts : List String)
  /-- Sets the budget of a category, or its amount for one month. -/
  | setBudget (category : String) (amount : Float) (month : Option String)
  | listTargets (date : Option String) (accounts : List String)
  /-- Adds a target; its filter is given by id or by name. -/
  | addTarget (name filter period : String) (amount : Float)
  | overrideTarget (id : Int) (key : String) (amount : Float)
  | addOffset (credit debit : Int) (amount : Float)
  deriving DecidableEq

/-- A command and what holds for every command. -/
structure Invocation where
  /-- The database file, if not the one of the settings. -/
  database : Option String
  /-- The settings file, if not the usual one. -/
  settings : Option String
  unencrypted : Bool
  /-- Whether reports are written in JSON. -/
  json : Bool
  request : Request
  deriving DecidableEq

/-! ### Values of a level -/

namespace Level

/-- Whether an option was given. -/
def has (l : Level) (name : String) : Bool := l.given.any (·.1 == name)

/-- The value of an option. -/
def value? (l : Level) (name : String) : Option String := l.given.lookup name

/-- The values of an option, in the order in which they were given. -/
def values (l : Level) (name : String) : List String :=
  ((l.given.filter (·.1 == name)).map Prod.snd).reverse

/-- The value of an option that must be given. -/
def value (l : Level) (name : String) : Except Stop String :=
  match l.value? name with
  | some v => .ok v
  | none => .error .usage

/-- The value of an option as a number, or a default. -/
def number {α : Type} (l : Level) (name : String) (read : String → Option α) (default : α) :
    Except Stop α :=
  match l.value? name with
  | none => .ok default
  | some v => match read v with
    | some n => .ok n
    | none => .error .usage

end Level

/-- What is read of a value, if it can be. -/
def readAs {α : Type} (read : String → Option α) (v : String) : Except Stop α :=
  match read v with
  | some n => .ok n
  | none => .error .usage

/-- An id. -/
def readId (v : String) : Except Stop Int := readAs Reading.int64? v

/-- An amount. -/
def readAmount (v : String) : Except Stop Float := readAs Reading.number? v

/-! ### Requests -/

/-- The transaction that the options describe. -/
def entry (l : Level) : Except Stop Entry := do
  return {
    date := ← l.value "date"
    amount := ← readAmount (← l.value "amount")
    description := ← l.value "desc"
    account := l.value? "account"
    category := l.value? "category"
    tags := l.values "tag" }

/-- **The request of a level:** its command with its values. -/
def request (l : Level) : Except Stop Request := do
  match l.verb, l.places.reverse with
  | .init, [] => return .init
  | .accounts, [] => return .listAccounts
  | .addAccount, [name] => return .addAccount name
  | .categories, [] => return .listCategories
  | .addCategory, [name] =>
    return .addCategory name (← l.number "order" Reading.int64? 0) (l.value? "color")
  | .tags, [] => return .listTags
  | .addTag, [name] => return .addTag name (l.value? "color")
  | .transactions, [] => return .listTransactions none 20
  | .listTransactions, [] =>
    return .listTransactions (l.value? "filter") (← l.number "limit" Reading.nat64? 20)
  | .addTransaction, [] => return .addTransaction (← entry l)
  | .tagTransaction, [id, tag] => return .tagTransaction (← readId id) tag
  | .categorize, [id] => return .categorize (← readId id) none
  | .categorize, [id, category] => return .categorize (← readId id) (some category)
  | .checkFilter, [expression] => return .checkFilter expression
  | .searchFilter, [expression] =>
    return .searchFilter expression (l.values "account") (← l.number "limit" Reading.nat64? 50)
  | .filters, [] => return .listFilters
  | .addFilter, [name, expression] => return .addFilter name expression
  | .deleteFilter, [id] => return .deleteFilter (← readId id)
  | .rules, [] => return .listRules
  | .addRule, [name] =>
    return .addRule name (← l.value "filter") (l.value? "category") (l.values "tag")
      (← l.number "order" Reading.int64? 0)
  | .enableRule, [id] => return .enableRule (← readId id) true
  | .disableRule, [id] => return .enableRule (← readId id) false
  | .deleteRule, [id] => return .deleteRule (← readId id)
  | .previewRules, [] => return .previewRules (l.values "account")
  | .applyRules, [] => return .applyRules (l.values "account")
  | .budget, [] => return .showBudget (l.value? "month") (l.values "account")
  | .setBudget, [category, amount] =>
    return .setBudget category (← readAmount amount) (l.value? "month")
  | .targets, [] => return .listTargets none []
  | .listTargets, [] => return .listTargets (l.value? "date") (l.values "account")
  | .addTarget, [name, amount] =>
    return .addTarget name (← l.value "filter") ((l.value? "period").getD "monthly")
      (← readAmount amount)
  | .overrideTarget, [id, key, amount] =>
    return .overrideTarget (← readId id) key (← readAmount amount)
  | .addOffset, [credit, debit, amount] =>
    return .addOffset (← readId credit) (← readId debit) (← readAmount amount)
  | _, _ => throw .usage

/-- **Reads the arguments of the command line.** Of an option that holds for every command the value
nearest to the end of the name of the command counts. -/
def invocation (args : List String) : Except Stop Invocation := do
  let (level, outer) ← scan args
  let levels := level :: outer
  return {
    database := levels.findSome? (·.value? "db")
    settings := levels.findSome? (·.value? "config")
    unencrypted := levels.any (·.has "no-encrypt")
    json := levels.any (·.has "json")
    request := ← request level }

end Coffer.Command
