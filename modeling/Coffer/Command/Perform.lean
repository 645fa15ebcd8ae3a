/-
**Every command on an open store.**

Main definitions: `Coffer.Command.perform` — what a command prints and what it leaves in the store.
-/

import Coffer.Command.Change
import Coffer.Command.Show

set_option autoImplicit false

namespace Coffer.Command

/-- What a command runs with. -/
structure Setting where
  style : Style
  today : Date

/-- **The action of a command.** The commands `init` and `filter check` leave the store alone and
are answered before it comes to this. -/
def action (c : Setting) : Request → Action String
  | .init => return ""
  | .checkFilter _ => return ""
  | .listAccounts => listAccounts
  | .addAccount name => addAccount name
  | .listCategories => listCategories
  | .addCategory name order color => addCategory name order color
  | .listTags => listTags
  | .addTag name color => addTag name color
  | .listTransactions filter limit => listTransactions c.style filter limit
  | .addTransaction e => addTransaction e
  | .tagTransaction id name => tagTransaction id name
  | .categorize id name => categorize id name
  | .searchFilter expression accounts limit => searchFilter c.style expression accounts limit
  | .listFilters => listFilters
  | .addFilter name expression => addFilter name expression
  | .deleteFilter id => deleteFilter id
  | .listRules => listRules
  | .addRule name filter category tags order => addRule name filter category tags order
  | .enableRule id enabled => enableRule id enabled
  | .deleteRule id => deleteRule id
  | .previewRules accounts => previewRules c.style accounts
  | .applyRules accounts => applyRules c.style accounts
  | .showBudget month accounts => showBudget c.style c.today month accounts
  | .setBudget name amount month => setBudget c.style.settings name amount month
  | .listTargets date accounts => listTargets c.style c.today date accounts
  | .addTarget name filter period amount => addTarget name filter period amount
  | .overrideTarget id key amount => overrideTarget id key amount
  | .addOffset credit debit amount => addOffset credit debit amount

/-- **Performs a command on a store,** which may be written or not: what it prints or why it fails,
and the store after it. -/
def perform (c : Setting) (r : Request) (writable : Bool) (s : Store) :
    Except Failure String × Store :=
  (action c r).carryOut writable s

end Coffer.Command
