/-
**What can go wrong, and how it is reported.**

Main definitions:

* `Coffer.StoreError` — why the store refuses an operation or cannot be read;
* `Coffer.Error` — why an operation of the ledger fails;
* `Coffer.Error.message`, `Coffer.Error.causes` — its wording, and the causes behind it.
-/

import Coffer.Calendar.Period
import Coffer.Filter.Error
import Coffer.Store.Location

set_option autoImplicit false

namespace Coffer

/-- Why the store refuses an operation or cannot be read. -/
inductive StoreError where
  /-- A record refers to a record that does not exist. -/
  | foreignKey
  /-- Another record has the same value in this column. -/
  | duplicate (column : String)
  /-- There is no value for this column. -/
  | missingValue (column : String)
  /-- The file cannot be read with the given passphrase. -/
  | notADatabase
  /-- A stored date is not a date. -/
  | badDate (e : DateError)
  /-- The store is only to be read. -/
  | readOnly
  /-- There is no way to keep a log or a journal beside the file. -/
  | noLog
  /-- A number is stored in place of a date, an integer or one with a fraction. -/
  | numberForDate (isInteger : Bool)
  deriving DecidableEq, Repr

namespace StoreError

/-- The wording of a store error. -/
def message : StoreError → String
  | .foreignKey => "FOREIGN KEY constraint failed"
  | .duplicate column => "UNIQUE constraint failed: " ++ column
  | .missingValue column => "NOT NULL constraint failed: " ++ column
  | .notADatabase => "file is not a database"
  | .readOnly => "attempt to write a readonly database"
  | .noLog => "unable to open database file"
  | .badDate e => "Conversion error from type Text at index: 0, " ++ e.message
  | .numberForDate isInteger =>
    "Invalid column type " ++ (if isInteger then "Integer" else "Real")
      ++ " at index: 2, name: date"

/-- The cause behind a store error, if there is one: the code of the broken rule, or what is wrong
with a date. -/
def cause? : StoreError → Option String
  | .foreignKey => some "Error code 787: Foreign key constraint failed"
  | .duplicate _ => some "Error code 2067: A UNIQUE constraint failed"
  | .missingValue _ => some "Error code 1299: A NOT NULL constraint failed"
  | .notADatabase => some "Error code 26: File opened that is not a database file"
  | .readOnly => some "Error code 8: Attempt to write a readonly database"
  | .noLog => some "Error code 14: Unable to open the database file"
  | .badDate e => some e.message
  | .numberForDate _ => none

end StoreError

/-- Why an operation of the ledger fails. -/
inductive Error where
  | store (e : StoreError)
  /-- The database is to be encrypted and there is no passphrase. -/
  | noPassphrase
  /-- The settings are not well formed; the text says where. -/
  | badSettings (reason : String)
  | filter (e : FilterError)
  | period (e : PeriodError)
  /-- A stored period length is none. -/
  | unknownPeriod (text : String)
  /-- No account has this name. -/
  | noAccount (name : String)
  /-- The saved filter of a target does not exist. -/
  | noTargetFilter (filter : Int) (target : String)
  /-- The settings file does not exist. -/
  | noSettingsFile (path : String)
  /-- A file that exists cannot be read as a text. -/
  | unreadable (reason : String)
  /-- There is no database where it should be. -/
  | noDatabase (e : LocationError)
  deriving DecidableEq, Repr

namespace Error

/-- What is said of a location without a database. -/
def noDatabaseReason (e : LocationError) : String :=
  "timed out waiting for connection: " ++ e.message

/-- The wording of an error. -/
def message : Error → String
  | .store e => "Database error: " ++ e.message
  | .noPassphrase =>
    "Encryption error: Database encryption required. Set CINCH_DB_KEY with your passphrase, "
      ++ "or pass --no-encrypt for an unencrypted database."
  | .badSettings reason => "Config error: " ++ reason
  | .filter e => "Filter error: " ++ e.message
  | .period e => "Invalid data: " ++ e.message
  | .unknownPeriod s => "Invalid data: " ++ PeriodKind.unknown s
  | .noAccount name => "Not found: Account '" ++ name ++ "'"
  | .noTargetFilter i name =>
    "Not found: saved filter " ++ toString i ++ " for target '" ++ name ++ "'"
  | .noSettingsFile path => "Not found: Config file " ++ path
  | .unreadable reason => "IO error: " ++ reason
  | .noDatabase e => "Database pool error: " ++ noDatabaseReason e

/-- The causes behind an error, from the nearest to the farthest. -/
def causes : Error → List String
  | .store e => e.message :: e.cause?.toList
  | .filter e => [e.message]
  | .badSettings reason => [reason]
  | .unreadable reason => [reason]
  | .noDatabase e => [noDatabaseReason e]
  | _ => []

end Error

end Coffer
