/-
**The commands, with their options and their values.**

A command is named by one word or by two, as in `rules apply`.  What can be said to it stands in
tables here, together with the explanations from which the help text is made.

Main definitions:

* `Coffer.Command.Verb` — the commands and their groups, with `Verb.children` and `Verb.about`;
* `Coffer.Command.ValueKind` — which texts a value can be;
* `Coffer.Command.Flag`, `Coffer.Command.Place` — an option, and a value without a name;
* `Coffer.Command.Verb.flags`, `Coffer.Command.Verb.places` — what a command takes.
-/

import Coffer.Number.Reading

set_option autoImplicit false

namespace Coffer.Command

/-! ### Commands -/

/-- The commands, and the groups to which they belong. -/
inductive Verb where
  | root
  | init
  | accounts
  | addAccount
  | categories
  | addCategory
  | tags
  | addTag
  | transactions
  | listTransactions
  | addTransaction
  | tagTransaction
  | categorize
  | filter
  | checkFilter
  | searchFilter
  | filters
  | addFilter
  | deleteFilter
  | rules
  | addRule
  | enableRule
  | disableRule
  | deleteRule
  | previewRules
  | applyRules
  | budget
  | setBudget
  | targets
  | listTargets
  | addTarget
  | overrideTarget
  | offsets
  | addOffset
  deriving DecidableEq, Repr

namespace Verb

/-- The commands under a command, with their names. -/
def children : Verb → List (String × Verb)
  | .root =>
    [("init", .init), ("accounts", .accounts), ("categories", .categories), ("tags", .tags),
      ("transactions", .transactions), ("filter", .filter), ("filters", .filters),
      ("rules", .rules), ("budget", .budget), ("targets", .targets), ("offsets", .offsets)]
  | .accounts => [("add", .addAccount)]
  | .categories => [("add", .addCategory)]
  | .tags => [("add", .addTag)]
  | .transactions =>
    [("list", .listTransactions), ("add", .addTransaction), ("tag", .tagTransaction),
      ("categorize", .categorize)]
  | .filter => [("check", .checkFilter), ("search", .searchFilter)]
  | .filters => [("add", .addFilter), ("delete", .deleteFilter)]
  | .rules =>
    [("add", .addRule), ("enable", .enableRule), ("disable", .disableRule),
      ("delete", .deleteRule), ("dry-run", .previewRules), ("apply", .applyRules)]
  | .budget => [("set", .setBudget)]
  | .targets => [("list", .listTargets), ("add", .addTarget), ("override", .overrideTarget)]
  | .offsets => [("add", .addOffset)]
  | _ => []

/-- The command of a name under a command. -/
def child? (v : Verb) (name : String) : Option Verb := v.children.lookup name

/-- Whether a command is a group, which takes no values of its own. -/
def isGroup (v : Verb) : Bool := !v.children.isEmpty

/-- Whether a group does nothing by itself, so that one of its commands must be named. -/
def needsChild : Verb → Bool
  | .root | .filter | .offsets => true
  | _ => false

/-- What a command does. -/
def about : Verb → String
  | .root => "Transaction filters, categorization rules and budgets"
  | .init => "Initialize the database"
  | .accounts => "List or add accounts"
  | .addAccount => "Add an account"
  | .categories => "List or add categories"
  | .addCategory => "Add a category"
  | .tags => "List or add tags"
  | .addTag => "Add a tag"
  | .transactions => "List, add, tag or categorize transactions"
  | .listTransactions => "List recent transactions"
  | .addTransaction => "Add a transaction"
  | .tagTransaction => "Attach a tag to a transaction"
  | .categorize => "Set or clear a transaction's category"
  | .filter => "Check or run a filter expression"
  | .checkFilter => "Strictly parse an expression and show its canonical form"
  | .searchFilter => "Show transactions matching an expression"
  | .filters => "Manage saved filters"
  | .addFilter => "Save a named filter expression"
  | .deleteFilter => "Delete a saved filter (rules and targets using it will fail to bind)"
  | .rules =>
    "Manage categorization rules (list, add, enable, disable, delete, dry-run, apply)"
  | .addRule => "Add a rule"
  | .enableRule => "Enable a rule"
  | .disableRule => "Disable a rule"
  | .deleteRule => "Delete a rule"
  | .previewRules => "Preview what `apply` would change"
  | .applyRules => "Apply enabled rules and save the changes"
  | .budget => "Show the monthly category budget, or set a budget"
  | .setBudget => "Set a category's monthly budget, or override it for one month"
  | .targets => "Manage spending targets"
  | .listTargets => "Show each target for its current period"
  | .addTarget => "Add a spending target"
  | .overrideTarget => "Override a target for one period (YYYY-MM, YYYY-Qn or YYYY)"
  | .offsets => "Link credits to the debits they offset"
  | .addOffset => "Offset part of a debit with a credit"

end Verb

/-! ### Values -/

/-- What a value stands for. -/
inductive ValueKind where
  | text
  /-- The path of a file. -/
  | path
  | integer
  /-- A number of things. -/
  | count
  | amount
  deriving DecidableEq, Repr

/-- Whether a text can be a value. -/
def ValueKind.accepts (k : ValueKind) (v : String) : Bool :=
  match k with
  | .text => true
  | .path => !v.isEmpty
  | .integer => (Reading.int64? v).isSome
  | .count => (Reading.nat64? v).isSome
  | .amount => (Reading.number? v).isSome

/-- A value without a name. -/
structure Place where
  name : String
  kind : ValueKind
  about : String
  /-- Whether the value must be given. -/
  required : Bool
  deriving DecidableEq

/-- A value that must be given. -/
def Place.of (name : String) (kind : ValueKind) (about : String) : Place :=
  ⟨name, kind, about, true⟩

/-! ### Options -/

/-- What an option takes. -/
inductive FlagKind where
  /-- Nothing: it is there or not. -/
  | switch
  /-- A value, given once. -/
  | value (k : ValueKind)
  /-- A text, given as often as one likes. -/
  | texts
  /-- A value that may look like an option. -/
  | anyValue (k : ValueKind)
  /-- Nothing: it asks for the help text. -/
  | help
  /-- Nothing: it asks for the version. -/
  | version
  deriving DecidableEq, Repr

/-- An option of a command. -/
structure Flag where
  name : String
  letter : Option Char
  kind : FlagKind
  about : String
  /-- What a full help text says besides. -/
  further : Option String
  /-- The value that holds if none is given. -/
  default : Option String
  /-- Whether the option must be given. -/
  required : Bool
  deriving DecidableEq

namespace Flag

/-- An option without a letter that need not be given. -/
def long (name : String) (kind : FlagKind) (about : String) : Flag :=
  ⟨name, none, kind, about, none, none, false⟩

/-- An option with a letter. -/
def short (letter : Char) (name : String) (kind : FlagKind) (about : String) : Flag :=
  { long name kind about with letter := some letter }

/-- The same option with more to say about it. -/
def telling (f : Flag) (more : String) : Flag := { f with further := some more }

/-- The same option with a default. -/
def orElse (f : Flag) (default : String) : Flag := { f with default := some default }

/-- The same option, which must be given. -/
def must (f : Flag) : Flag := { f with required := true }

/-- What the value of an option stands for, if it takes one. -/
def valueKind? (f : Flag) : Option ValueKind :=
  match f.kind with
  | .value k | .anyValue k => some k
  | .texts => some .text
  | .switch | .help | .version => none

/-- The option that asks for the help text. -/
def help : Flag := short 'h' "help" .help "Print help"

/-- The option that asks for the version. -/
def version : Flag := short 'V' "version" .version "Print version"

/-- The names of accounts. -/
def accounts : Flag := long "account" .texts "Restrict to these accounts (repeatable)"

/-- The most that is shown. -/
def limit (default : String) : Flag :=
  (short 'l' "limit" (.value .count) "Maximum number of transactions to show").orElse default

/-- A color. -/
def color (sample : String) : Flag :=
  long "color" (.value .text) ("Color (hex, e.g., " ++ sample ++ ")")

/-- A place in an order. -/
def order (about : String) : Flag := (long "order" (.value .integer) about).orElse "0"

/-- A saved filter. -/
def filter : Flag := (long "filter" (.value .text) "Saved filter ID or name").must

end Flag

/-- The options that hold for every command. -/
def commonFlags : List Flag :=
  [.long "db" (.value .path) "Database path (overrides `database.path` in settings)",
    .long "config" (.value .path) "Settings file (defaults to the platform config dir)",
    .short 'v' "verbose" .switch "Enable verbose logging",
    (Flag.long "no-encrypt" .switch
      "Disable database encryption (not recommended for real data)").telling
        ("By default, the database is encrypted using SQLCipher. "
          ++ "Set CINCH_DB_KEY environment variable with your passphrase."),
    .long "json" .switch "Print reports as JSON"]

namespace Verb

/-- The options of a command of its own. -/
def ownFlags : Verb → List Flag
  | .addCategory => [.order "Display order (lower first)", .color "#10b981"]
  | .addTag => [.color "#3b82f6"]
  | .listTransactions =>
    [.short 'f' "filter" (.value .text) "Only show transactions matching this filter expression",
      .limit "20"]
  | .addTransaction =>
    [(Flag.long "date" (.value .text) "Posting date (YYYY-MM-DD)").must,
      (Flag.long "amount" (.anyValue .amount) "Signed amount (negative for debits)").must,
      (Flag.long "desc" (.value .text) "Description as it appears on the statement").must,
      .long "account" (.value .text) "Account name (created if missing)",
      .long "category" (.value .text) "Category name (created if missing)",
      .long "tag" .texts "Tag names (created if missing, repeatable)"]
  | .searchFilter => [.accounts, .limit "50"]
  | .addRule =>
    [.filter, .long "category" (.value .text) "Category to assign",
      .long "tag" .texts "Tags to add (repeatable)", .order "Application order (lower first)"]
  | .previewRules => [.accounts]
  | .applyRules => [.accounts]
  | .budget =>
    [.long "month" (.value .text) "Month to report (YYYY-MM, defaults to the current month)",
      .accounts]
  | .setBudget => [.long "month" (.value .text) "Override only this month (YYYY-MM)"]
  | .listTargets =>
    [.long "date" (.value .text) "Report as of this date (YYYY-MM-DD, defaults to today)",
      .accounts]
  | .addTarget =>
    [.filter,
      (Flag.long "period" (.value .text) "Period: monthly, quarterly, annual").orElse "monthly"]
  | _ => []

/-- The options of a command that print something instead of running it. -/
def askingFlags : Verb → List Flag
  | .root => [.help, .version]
  | _ => [.help]

/-- **The options of a command.** -/
def flags (v : Verb) : List Flag := v.ownFlags ++ commonFlags ++ v.askingFlags

/-- **The values that a command takes without a name,** in their order. -/
def places : Verb → List Place
  | .addAccount => [.of "name" .text "Account name"]
  | .addCategory => [.of "name" .text "Category name"]
  | .addTag => [.of "name" .text "Tag name"]
  | .tagTransaction => [.of "id" .integer "Transaction ID", .of "tag" .text "Tag name"]
  | .categorize =>
    [.of "id" .integer "Transaction ID",
      ⟨"category", .text, "Category name (omit to clear)", false⟩]
  | .checkFilter => [.of "expression" .text "Filter expression"]
  | .searchFilter => [.of "expression" .text "Filter expression"]
  | .addFilter =>
    [.of "name" .text "Filter name",
      .of "expression" .text "Filter expression (stored exactly as given)"]
  | .deleteFilter => [.of "id" .integer "Saved filter ID"]
  | .addRule => [.of "name" .text "Rule name"]
  | .enableRule => [.of "id" .integer "Rule ID"]
  | .disableRule => [.of "id" .integer "Rule ID"]
  | .deleteRule => [.of "id" .integer "Rule ID"]
  | .setBudget => [.of "category" .text "Category name", .of "amount" .amount "Budgeted amount"]
  | .addTarget =>
    [.of "name" .text "Target name", .of "amount" .amount "Budgeted amount per period"]
  | .overrideTarget =>
    [.of "id" .integer "Target ID", .of "key" .text "Period key",
      .of "amount" .amount "Budgeted amount for that period"]
  | .addOffset =>
    [.of "credit" .integer "Credit transaction ID", .of "debit" .integer "Debit transaction ID",
      .of "amount" .amount "Amount of the credit applied to the debit"]
  | _ => []

end Verb

end Coffer.Command
