/-
**The store in its file, with a passphrase or without.**

A database file is written with the passphrase with which it was first opened, or without one, and
opens in the same way only.

Main definitions: `Coffer.Database`, `Coffer.Database.openWith`, `Coffer.Database.fresh`.
-/

import Coffer.Store.Tables

set_option autoImplicit false

namespace Coffer

/-- A database file. -/
structure Database where
  /-- The passphrase, if the file is encrypted. -/
  passphrase : Option String
  store : Store
  deriving DecidableEq

namespace Database

/-- **Opens a database file,** which is made if there is none. -/
def openWith (passphrase : Option String) : Option Database → Except StoreError Database
  | none => .ok ⟨passphrase, Store.empty⟩
  | some db => if db.passphrase = passphrase then .ok db else .error .notADatabase

/-- The store of a new database. It must be possible to write the database to make one of it. -/
def fresh (l : Location) : Except StoreError Store :=
  if l.isReadOnly then .error .readOnly else .ok Store.empty

end Database

end Coffer
