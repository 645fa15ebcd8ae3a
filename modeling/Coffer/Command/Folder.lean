/-
**A disk in memory.**

Files stand under the names of the folders in which they are.  A folder is there as soon as there is
a file in it, and so is everything outside of the working folder.  A text is looked for name by
name, and every name on the way must be that of a folder; the path of a database is shortened first.
A name has at most 255 bytes.

Main definitions: `Coffer.Command.Folder`, `Coffer.Command.Folder.write`,
`Coffer.Command.Folder.disk`.
-/

import Coffer.Command.Program

set_option autoImplicit false

namespace Coffer.Command

/-- What a file holds. -/
inductive FileContent where
  | text (s : String)
  /-- A database, which may have been worked on with a log. -/
  | database (d : Database) (hasLog : Bool)

/-- **Files with their places,** each place being a list of names from the working folder on. -/
structure Folder where
  files : List (List String × FileContent)

namespace Folder

/-- No files at all. -/
def empty : Folder := ⟨[]⟩

/-- Goes on by one name of a path, the place so far being given from its end. -/
def follow (place : List String) (name : String) : List String :=
  match name, place with
  | "", _ | ".", _ => place
  -- above the working folder nothing is known but the way back
  | "..", [] => [".."]
  | "..", ".." :: _ => ".." :: place
  | "..", "/" :: _ => place
  | "..", _ :: rest => rest
  | _, _ => name :: place

/-- Where a path starts. -/
def start (path : String) : List String := if path.startsWith "/" then ["/"] else []

/-- The place to which a path leads, whatever is on the way. -/
def placeOf (path : String) : List String := ((path.splitOn "/").foldl follow (start path)).reverse

/-- Whether a place is a folder. -/
def isFolder (f : Folder) (place : List String) : Bool :=
  place.all (· == "..") || place == ["/"] ||
    f.files.any fun e => place.isPrefixOf e.1 && place.length < e.1.length

/-- The place to which a path leads, if its names but the last one are those of folders. -/
def reach? (f : Folder) (path : String) : Option (List String) :=
  ((path.splitOn "/").foldlM (fun place name =>
    if f.isFolder place.reverse then some (follow place name) else none) (start path)).map
      List.reverse

/-- Whether a file can have this name. -/
def isName (name : String) : Bool := decide (name.utf8ByteSize ≤ 255)

/-- What is at a place. -/
def at? (f : Folder) (place : List String) : Option FileContent := f.files.lookup place

/-- Puts a file at a place. -/
def put (f : Folder) (place : List String) (content : FileContent) : Folder :=
  ⟨(place, content) :: f.files.filter (·.1 != place)⟩

/-- **Writes a text file.** -/
def write (f : Folder) (path text : String) : Folder := f.put (placeOf path) (.text text)

/-- Reads a text file. -/
def text (f : Folder) (path : String) : TextFile :=
  if path.isEmpty then .absent
  else match f.reach? path with
    | none => .absent
    | some place =>
      if f.isFolder place then .unreadable "Is a directory (os error 21)"
      else match f.at? place with
        | some (.text s) => .text s
        | some (.database _ _) => .unreadable "stream did not contain valid UTF-8"
        | none => .absent

/-- Makes a database of an empty file, which takes a journal beside it. -/
def newDatabase (l : Location) (place : List String) : Except StoreError Store := do
  let s ← Database.fresh l
  if isName (place.getLastD "" ++ "-journal") then return s else throw .noLog

/-- Opens what a file holds. A text of more than one byte is no database. -/
def openFile (l : Location) (passphrase : Option String) (place : List String) :
    FileContent → Except StoreError Store
  | .text s => if s.utf8ByteSize ≤ 1 then newDatabase l place else .error .notADatabase
  | .database d hasLog =>
    match Database.openWith passphrase (some d) with
    | .error e => .error e
    | .ok d =>
      if hasLog && !l.hasLog && !l.fixed then .error .noLog
      -- the first use of a log is written down in the file
      else if !hasLog && l.hasLog && l.isReadOnly then .error .readOnly
      else .ok d.store

/-- Makes the file of a database, without a byte in it, if there is none and it may be made. -/
def withFile (f : Folder) (l : Location) : Folder :=
  let place := placeOf l.path
  if !l.isPassing && l.access == .making && (f.at? place).isNone && !f.isFolder place
      && f.isFolder place.dropLast && place.all isName then
    f.put place (.text "")
  else f

/-- Opens a database. -/
def load (f : Folder) (l : Location) (passphrase : Option String) : Except Error Store :=
  let place := placeOf l.path
  if l.isPassing then (Database.fresh l).mapError .store
  -- a folder can be opened for reading, if it has a name, but not read
  else if f.isFolder place && l.access == .reading && place != ["/"] then
    .error (.noDatabase .unreadable)
  else match f.at? place with
    | some content => (openFile l passphrase place content).mapError .store
    | none => .error (.noDatabase (.noFile l.text))

/-- Writes a database. -/
def save (f : Folder) (l : Location) (passphrase : Option String) (s : Store) : Folder :=
  if l.isPassing then f
  else f.put (placeOf l.path) (.database ⟨passphrase, s⟩ l.hasLog)

/-- **The disk of the folder that is carried along.** -/
def disk : Disk (StateM Folder) where
  text path := return (← get).text path
  load l passphrase := do
    modify fun f => f.withFile l
    return (← get).load l passphrase
  save l passphrase s := modify fun f => f.save l passphrase s

end Folder

end Coffer.Command
