/-
**Where a database is kept.**

A database is kept at the path of a file or at a *file address*.  An address is `file:` and a path,
in which any byte may be written as `%` and two hexadecimal digits; between them may stand `//` and
an authority, which can only be this computer.  Behind a question mark follow options, and behind a
number sign nothing counts.  A database without a file is gone with the end of the run.

Main definitions:

* `Coffer.Location` — a path, and how the file at it is used;
* `Coffer.Location.read` — the location that a text stands for;
* `Coffer.LocationError` — why there is no database at a location.
-/

import Coffer.Number.Reading
import Coffer.Text.Blank

set_option autoImplicit false

namespace Coffer

/-- Why there is no database at a location. -/
inductive LocationError where
  /-- There is a zero byte in the text, behind so many others. -/
  | zeroByte (position : Nat)
  /-- The authority of an address is not this computer. -/
  | foreignAuthority (name : String)
  /-- An option asks for an access that does not exist. -/
  | unknownAccess (name : String)
  /-- An option asks for more than an option before it has left. -/
  | forbiddenAccess (name : String)
  /-- An option asks for a cache that does not exist. -/
  | unknownCache (name : String)
  /-- An option asks for a file system that does not exist. -/
  | unknownSystem (name : String)
  /-- There is no file, and none can be made; the text is the one that stands for the location. -/
  | noFile (text : String)
  /-- There is a folder in place of the file. -/
  | unreadable
  deriving DecidableEq, Repr

/-- The wording of the reason why there is no database at a location. -/
def LocationError.message : LocationError → String
  | .zeroByte position => "nul byte found in provided data at position: " ++ toString position
  | .foreignAuthority name => "invalid uri authority: " ++ name
  | .unknownAccess name => "no such access mode: " ++ name
  | .forbiddenAccess name => "access mode not allowed: " ++ name
  | .unknownCache name => "no such cache mode: " ++ name
  | .unknownSystem name => "no such vfs: " ++ name
  | .noFile text => "unable to open database file: " ++ text
  | .unreadable => "disk I/O error"

/-! ### The use of a file -/

/-- How a file is used. -/
inductive Access where
  /-- It is only read. -/
  | reading
  /-- It is read and written, and must be there. -/
  | writing
  /-- It is read and written, and made if it is not there. -/
  | making
  /-- It is not used: the database is in memory. -/
  | none
  deriving DecidableEq, Repr

namespace Access

/-- The access of a name. -/
def ofName? : String → Option Access
  | "ro" => some .reading
  | "rw" => some .writing
  | "rwc" => some .making
  | "memory" => some .none
  | _ => Option.none

/-- How much an access asks for. -/
def demand : Access → Nat
  | .none => 0
  | .reading => 1
  | .writing => 2
  | .making => 3

/-- How much may be asked for in place of an access. In memory, anything may. -/
def grant : Access → Nat
  | .none => 3
  | a => a.demand

end Access

/-- What carries the files. -/
inductive FileSystem where
  /-- Files that several programs may work on, with a log beside each. -/
  | shared
  /-- Files without logs. -/
  | bare
  /-- Files in memory, gone with the end of the run. -/
  | memory
  deriving DecidableEq, Repr

/-- The file system of a name. -/
def FileSystem.ofName? : String → Option FileSystem
  | "unix" | "unix-excl" => some .shared
  | "unix-dotfile" | "unix-none" => some .bare
  | "memdb" => some .memory
  | _ => none

/-- **Where a database is kept, and how its file is used.** -/
structure Location where
  /-- The text that stands for the location. -/
  text : String
  path : String
  access : Access
  system : FileSystem
  /-- Whether the file is taken for one that never changes. -/
  fixed : Bool
  /-- Whether the file is used without locks. -/
  unlocked : Bool
  deriving DecidableEq, Repr

namespace Location

/-- Whether a file is used at all. -/
def hasFile (l : Location) : Bool :=
  !l.path.isEmpty && l.path != ":memory:" && l.access != .none

/-- Whether the database is gone with the end of the run. -/
def isPassing (l : Location) : Bool := !l.hasFile || l.system == .memory

/-- Whether the database cannot be written. -/
def isReadOnly (l : Location) : Bool := l.access == .reading || (l.fixed && l.hasFile)

/-- Whether a log is kept beside the file, which takes locks. -/
def hasLog (l : Location) : Bool := l.system == .shared && !l.unlocked && !l.fixed

/-- The location of a path. -/
def ofPath (path : String) : Location := ⟨path, path, .making, .shared, false, false⟩

/-! ### Addresses -/

/-- The bytes that a part of an address stands for. A zero byte ends the part. -/
def bytes : List Char → List UInt8
  | [] => []
  | '%' :: a :: b :: rest =>
    match Reading.inBase? 16 [a, b] with
    | some 0 => []
    | some n => UInt8.ofNat n :: bytes rest
    | none => UInt8.ofNat '%'.toNat :: bytes (a :: b :: rest)
  | c :: rest => String.utf8EncodeChar c ++ bytes rest

/-- The text that a part of an address stands for; what is no text is taken byte by byte. -/
def part (s : List Char) : String :=
  match String.fromUTF8? ⟨(bytes s).toArray⟩ with
  | some text => text
  | none => String.ofList ((bytes s).map fun b => Char.ofNat b.toNat)

/-- The options of an address, each a name and a value. Without a name it is none. -/
def options (s : List Char) : List (String × String) :=
  (((String.ofList s).splitOn "&").map fun option =>
    let name := option.toList.takeWhile (· != '=')
    (part name, part (option.toList.drop (name.length + 1)))).filter fun option => option.1 != ""

/-- Whether the value of an option says yes: one of three words, or a number of 32 bits whose last
byte is not zero. -/
def saysYes (value : String) : Bool :=
  let digits := value.toList.takeWhile Char.isDigit
  if digits.isEmpty then
    ["on", "yes", "true"].contains (String.ofList (value.toList.map Char.toLower))
  else
    let n := Nat.ofDigitChars 10 digits 0
    decide (n < 2 ^ 31) && n % 256 != 0

/-- Takes in an option that narrows how the file is used. -/
def narrowed (l : Location) (option : String × String) : Except LocationError Location :=
  match option.1 with
  | "mode" =>
    match Access.ofName? option.2 with
    | none => .error (.unknownAccess option.2)
    | some a =>
      if a.demand ≤ l.access.grant then .ok { l with access := a }
      else .error (.forbiddenAccess option.2)
  | "cache" =>
    if option.2 = "shared" ∨ option.2 = "private" then .ok l else .error (.unknownCache option.2)
  | _ => .ok l

/-- The file system that the last option on it asks for. -/
def systemOf (options : List (String × String)) : Except LocationError FileSystem :=
  match (options.filter fun option => option.1 == "vfs").getLast? with
  | none => .ok .shared
  | some option =>
    match FileSystem.ofName? option.2 with
    | some system => .ok system
    | none => .error (.unknownSystem option.2)

/-- What follows the authority of an address, if there is one. -/
def behindAuthority : List Char → Except LocationError (List Char)
  | '/' :: '/' :: rest =>
    let authority := rest.takeWhile (· != '/')
    if authority = [] ∨ authority = "localhost".toList then .ok (rest.drop authority.length)
    else .error (.foreignAuthority (String.ofList authority))
  | rest => .ok rest

/-- The location of an address, of which `rest` stands behind `file:`. -/
def ofAddress (text : String) (rest : List Char) : Except LocationError Location := do
  let rest := (← behindAuthority rest).takeWhile (· != '#')
  let path := rest.takeWhile (· != '?')
  let options := options (rest.drop (path.length + 1))
  let l ← options.foldlM narrowed { ofPath (part path) with text := text }
  return { l with
    system := ← systemOf options
    -- of several options with one name these two take the first
    fixed := (options.lookup "immutable").any saysYes
    unlocked := (options.lookup "nolock").any saysYes }

/-- **The location that a text stands for.** -/
def read (text : String) : Except LocationError Location :=
  let before := text.toList.takeWhile (· != '\x00')
  if before.length < text.length then .error (.zeroByte (String.ofList before).utf8ByteSize)
  else match text.toList with
    | 'f' :: 'i' :: 'l' :: 'e' :: ':' :: rest => ofAddress text rest
    | _ => .ok (ofPath text)

/-- Without `file:` in front, a text is a path as it stands. -/
theorem read_of_path {text : String} (hzero : '\x00' ∉ text.toList)
    (hfile : ¬ "file:".toList <+: text.toList) : read text = .ok (ofPath text) := by
  have hbehind : text.toList.dropWhile (· != '\x00') = [] :=
    Text.dropWhile_eq_nil_iff_all.2 fun c hc => by
      simp only [bne_iff_ne, ne_eq]
      rintro rfl
      exact hzero hc
  have hbefore : text.toList.takeWhile (· != '\x00') = text.toList := by
    simpa [hbehind] using
      List.takeWhile_append_dropWhile (p := (· != '\x00')) (l := text.toList)
  unfold read
  simp only [hbefore, String.length_toList, Nat.lt_irrefl, if_false]
  split
  · next rest h => exact absurd ⟨rest, h.symm⟩ hfile
  · rfl

end Location

end Coffer
