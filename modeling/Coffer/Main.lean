/-
**The command line program.**

The program runs over the files of the computer.  Its settings stand where the environment keeps
settings, the passphrase in the variable `CINCH_DB_KEY`.
-/

import Std.Time.Date.PlainDate
import Std.Time.DateTime.Timestamp
import Coffer.Command.Program
import Coffer.Store.File

set_option autoImplicit false

namespace Coffer.Main

open Command

/-- Reads a text file. -/
def readText (path : String) : IO TextFile := do
  try
    match String.fromUTF8? (← IO.FS.readBinFile path) with
    | some s => return .text s
    | none => return .unreadable "stream did not contain valid UTF-8"
  catch
    | .noFileOrDirectory .. => return .absent
    | .inappropriateType .. => return .unreadable "Is a directory (os error 21)"
    | e => return .unreadable (toString e)

/-- The bytes of a database file, which is made if there is none and it may be made. -/
def bytesAt (l : Location) : IO (Except LocationError (List UInt8)) := do
  try
    return .ok (← IO.FS.readBinFile l.path).toList
  catch _ =>
    if l.access = .making then
      try
        IO.FS.writeBinFile l.path ByteArray.empty
        return .ok []
      catch _ => return .error (.noFile l.text)
    else return .error (.noFile l.text)

/-- Opens a database. -/
def loadDatabase (l : Location) (passphrase : Option String) : IO (Except Error Store) := do
  if l.isPassing then return (Database.fresh l).mapError .store
  match ← bytesAt l with
  | .ok bytes => return (DatabaseFile.read l passphrase bytes).mapError .store
  | .error e => return .error (.noDatabase e)

/-- Writes a database. -/
def saveDatabase (l : Location) (passphrase : Option String) (s : Store) : IO Unit := do
  if !l.isPassing then IO.FS.writeBinFile l.path ⟨(DatabaseFile.write passphrase s).toArray⟩

/-- The files of the computer. -/
def disk : Disk IO where
  text := readText
  load := loadDatabase
  save := saveDatabase

/-- Today, by the clock of the computer. -/
def today : IO Date := do
  let d := Std.Time.PlainDate.ofEpochDay (← Std.Time.Timestamp.now).toDaysSinceUnixEpoch
  return (Date.of? d.year.toInt d.month.val.toNat d.day.val.toNat).getD .min

/-- Where the settings stand, if the environment says where. -/
def settingsPath : IO (Option String) := do
  let folder ← match ← IO.getEnv "XDG_CONFIG_HOME" with
    | some folder => if folder.startsWith "/" then pure (some folder) else pure none
    | none => pure none
  let home ← IO.getEnv "HOME"
  return (folder <|> home.map (· ++ "/.config")).map (· ++ "/cinch/settings.toml")

end Coffer.Main

open Coffer Coffer.Command in
/-- **Runs the program** on its arguments. -/
def main (args : List String) : IO UInt32 := do
  let key ← IO.getEnv "CINCH_DB_KEY"
  let around : Surroundings := ⟨key, ← Main.today, ← Main.settingsPath⟩
  let o ← run Main.disk around args
  IO.print o.output
  IO.eprint o.errors
  return o.code.toUInt32
