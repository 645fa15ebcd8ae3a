/-
**Finding records by what the user calls them.**

Categories and tags are called by name in any letter case, transactions by id.  A saved filter is
called by its id or, if what is given is no integer, by its name in any case of ASCII letters.

Main definitions: `Coffer.Command.findFilter?`, `Coffer.Command.category`, `Coffer.Command.tag`,
`Coffer.Command.savedFilter`, `Coffer.Command.transaction`, `Coffer.Command.scope`.
-/

import Coffer.Command.Action
import Coffer.Number.Reading

set_option autoImplicit false

namespace Coffer.Command

/-- The category of a name. -/
def category (name : String) : Action Category := do
  Action.demand ("Category not found: " ++ name) ((← get).categoryNamed? name)

/-- The tag of a name. -/
def tag (name : String) : Action Tag := do
  Action.demand ("Tag not found: " ++ name) ((← get).tagNamed? name)

/-- The transaction of an id. -/
def transaction (id : Int) : Action Transaction := do
  let t ← Action.consult fun s => (s.transaction? id).mapError Error.store
  Action.demand ("Transaction " ++ toString id ++ " not found") t

/-- **The saved filter that is meant:** by id, or by the first name in order that agrees. -/
def findFilter? (s : Store) (called : String) : Option SavedFilter :=
  match Reading.int64? called with
  | some i => s.filter? i
  | none => s.listFilters.find? fun f => Text.sameAscii f.name called

/-- How the complaint about a missing filter calls it. -/
def filterCall (called : String) : String :=
  match Reading.int64? called with
  | some i => toString i
  | none => called

/-- The saved filter of an id or a name. -/
def savedFilter (called : String) : Action SavedFilter := do
  Action.demand ("Saved filter not found: " ++ filterCall called) (findFilter? (← get) called)

/-- The target of an id. -/
def target (id : Int) : Action Target := do
  let targets ← Action.consult Store.listTargets
  Action.demand ("Target " ++ toString id ++ " not found") (targets.find? (·.id == id))

/-- The scope of the named accounts; if none are named, of the accounts of the settings. -/
def scope (standard accounts : List String) : Action AccountScope :=
  Action.consultFor "Failed to resolve account scope"
    fun s => s.scopeOf (if accounts.isEmpty then standard else accounts)

/-- A snapshot of the store. -/
def snapshot : Action Snapshot := Action.consult Store.snapshot

end Coffer.Command
