/-
**Settings.**

Settings are written in TOML, in three tables.  What is missing keeps its default, and what is not
known is an error.  A table may also be written as the list of all its values, in order.

Main definitions: `Coffer.Settings`, `Coffer.Settings.standard`, `Coffer.Settings.parse`,
`Coffer.Settings.formatAmount`.
-/

import Coffer.Error
import Coffer.Number.Written
import Coffer.Text.Blank
import Coffer.Toml.Reader

set_option autoImplicit false

namespace Coffer

/-- The settings of the program. -/
structure Settings where
  /-- The file of the database. -/
  path : String
  /-- Whether the database is encrypted. -/
  encrypt : Bool
  /-- The names of the accounts that are looked at; none means all. -/
  accounts : List String
  currencySymbol : String
  deriving DecidableEq

namespace Settings

open Toml (Item Entries)

/-- The settings that hold where nothing else is said. -/
def standard : Settings := ⟨"cinch.db", true, [], "$"⟩

/-! ### Reading -/

/-- The text of an item. -/
def text? : Item → Option String
  | .text s => some s
  | _ => none

/-- The flag of an item. -/
def flag? : Item → Option Bool
  | .flag b => some b
  | _ => none

/-- The texts of a list. -/
def texts? : Item → Option (List String)
  | .list items => items.mapM text?
  | _ => none

/-- The values of a table under its keys, in the order of the keys; a key that is not among them is
an error. A list stands for the table if it has a value for every key. -/
def valuesOf? (keys : List String) : Item → Option (List (Option Item))
  | .table _ es =>
    -- a key that nobody knows spoils the table
    if es.all fun e => keys.contains e.1 then some (keys.map (Toml.Entries.get? es)) else none
  | .list items =>
      if keys.length ≤ items.length then some ((items.take keys.length).map some) else none
  | .tables items =>
      if keys.length ≤ items.length then some ((items.take keys.length).map some) else none
  | _ => none

/-- Reads a value if there is one. -/
def read? {α : Type} (default : α) (read : Item → Option α) : Option Item → Option α
  | none => some default
  | some i => read i

/-- The names of accounts without blanks around them; a name of blanks is none. -/
def accountNames (names : List String) : List String :=
  (names.map Text.trim).filter fun s => !s.isEmpty

/-- Takes in the table `database`. -/
def withDatabase (s : Settings) (i : Item) : Option Settings := do
  match ← valuesOf? ["path", "encrypt"] i with
  | [path, encrypt] =>
    return { s with path := ← read? s.path text? path, encrypt := ← read? s.encrypt flag? encrypt }
  | _ => none

/-- Takes in the table `scope`. -/
def withScope (s : Settings) (i : Item) : Option Settings := do
  match ← valuesOf? ["accounts"] i with
  | [accounts] =>
    return { s with accounts := ← read? s.accounts (fun i => (texts? i).map accountNames) accounts }
  | _ => none

/-- Takes in the table `display`. -/
def withDisplay (s : Settings) (i : Item) : Option Settings := do
  match ← valuesOf? ["currency_symbol"] i with
  | [symbol] => return { s with currencySymbol := ← read? s.currencySymbol text? symbol }
  | _ => none

/-- Takes in an item if there is one. -/
def withItem (f : Settings → Item → Option Settings) (s : Settings) : Option Item → Option Settings
  | none => some s
  | some i => f s i

/-- The settings of a document. -/
def ofDocument? (es : Entries) : Option Settings := do
  match ← valuesOf? ["database", "scope", "display"] (.table .header es) with
  | [database, scope, display] =>
    let s ← withItem withDatabase standard database
    let s ← withItem withScope s scope
    withItem withDisplay s display
  | _ => none

/-- **Reads settings.** -/
def parse (text : String) : Except Error Settings :=
  match (Toml.read? text).bind ofDocument? with
  | some s => .ok s
  | none => .error (.badSettings "invalid settings")

/-! ### Amounts -/

/-- **An amount with the currency symbol,** a minus sign in front of both. -/
def formatAmount (s : Settings) (x : Float) : String :=
  if x < 0 then "-" ++ s.currencySymbol ++ Binary64.cents x.abs
  else s.currencySymbol ++ Binary64.cents x

end Settings

end Coffer
