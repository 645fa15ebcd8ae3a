/-
**The bytes of a database file.**

A file starts with a line that says whether it is sealed.  Behind it stands the store, as it is or
sealed with the passphrase.  A file of one byte at most is a database without records, which may
then be kept with a passphrase or without.

Main definitions: `Coffer.DatabaseFile.write`, `Coffer.DatabaseFile.read`.
-/

import Coffer.Seal.Envelope
import Coffer.Store.Database
import Coffer.Store.Saved

set_option autoImplicit false

namespace Coffer.DatabaseFile

/-- The bytes of a text. -/
def bytesOf (s : String) : List UInt8 := s.toUTF8.toList

/-- The first line of a file that is not sealed. -/
def plainMark : List UInt8 := bytesOf "coffer plain\n"

/-- The first line of a sealed file. -/
def sealedMark : List UInt8 := bytesOf "coffer sealed\n"

/-- What stands behind a mark. -/
def behind? (mark bytes : List UInt8) : Option (List UInt8) :=
  if mark.isPrefixOf bytes then some (bytes.drop mark.length) else none

/-- The store of a text of bytes. -/
def storeOf? (bytes : List UInt8) : Option Store :=
  (String.fromUTF8? ⟨bytes.toArray⟩).bind Saved.decode?

/-- **The bytes of a store.** -/
def write (passphrase : Option String) (s : Store) : List UInt8 :=
  let text := bytesOf (Saved.encode s)
  match passphrase with
  | none => plainMark ++ text
  | some p => sealedMark ++ Seal.close (bytesOf p) text

/-- **Reads the store of a file,** which must be sealed with the passphrase, or not at all. -/
def read (l : Location) (passphrase : Option String) (bytes : List UInt8) :
    Except StoreError Store :=
  if bytes.length ≤ 1 then Database.fresh l
  else
    -- a sealed file needs a passphrase, and a plain file takes none
    let found := match passphrase with
      | none => behind? plainMark bytes
      | some p => (behind? sealedMark bytes).bind (Seal.open? (bytesOf p))
    match found.bind storeOf? with
    | some s => .ok s
    | none => .error .notADatabase

end Coffer.DatabaseFile
