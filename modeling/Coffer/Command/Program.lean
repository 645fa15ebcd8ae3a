/-
**The program: from arguments to output.**

A run of the program reads its settings, opens the database file, performs one command and leaves
the file as the command left the store.  It does so over a *disk*, which is whatever keeps files
under paths.

Main definitions:

* `Coffer.Command.Disk` — what the program asks of a disk;
* `Coffer.Command.Outcome` — what the program prints, and its exit code;
* `Coffer.Command.run` — a run of the program.
-/

import Coffer.Command.Help
import Coffer.Command.Perform

set_option autoImplicit false

namespace Coffer.Command

/-! ### Disks -/

/-- What is found where a text is looked for. -/
inductive TextFile where
  | text (s : String)
  | absent
  /-- There is something that is no text. -/
  | unreadable (reason : String)
  deriving DecidableEq

/-- What the program asks of a disk. -/
structure Disk (m : Type → Type) where
  /-- Reads a text file. -/
  text : String → m TextFile
  /-- Opens a database with a passphrase or without; one that is made has an empty store. -/
  load : Location → Option String → m (Except Error Store)
  /-- Writes a database. -/
  save : Location → Option String → Store → m Unit

/-- What a run depends on besides its arguments and the disk. -/
structure Surroundings where
  /-- The passphrase. -/
  key : Option String
  today : Date
  /-- The path of the usual settings file. -/
  settingsPath : Option String

/-! ### Outcomes -/

/-- What a run of the program leaves behind. -/
structure Outcome where
  code : Nat
  output : String
  errors : String
  deriving DecidableEq, Repr

namespace Outcome

/-- Success. -/
def success (output : String) : Outcome := ⟨0, output, ""⟩

/-- Failure, after something may have been printed. -/
def failure (output : String) (f : Failure) : Outcome := ⟨1, output, f.report⟩

/-- What was printed, and perhaps a failure. -/
def ofPrinted : String × Option Failure → Outcome
  | (output, none) => success output
  | (output, some f) => failure output f

end Outcome

/-- The version of the program. -/
def versionText : String := lines ["cinch 0.1.0"]

/-- The help text on a subject. -/
def Subject.text (full : Bool) : Subject → String
  | .command v => v.help full
  | .helpOf group => group.helpOfHelp

/-- What is printed instead of running a command. -/
def Stop.outcome : Stop → Outcome
  | .usage => ⟨2, "", lines [Verb.root.usage, "", "For more information, try '--help'."]⟩
  | .help subject full => .success (subject.text full)
  | .version => .success versionText

/-! ### Runs -/

section

variable {m : Type → Type} [Monad m]

/-- What a settings file says. -/
def readSettings : TextFile → Except Error Settings
  | .text s => Settings.parse s
  | .absent => .ok .standard
  | .unreadable reason => .error (.unreadable reason)

/-- **Loads the settings:** from the file that is asked for, which must exist, or from the usual
one, which need not. -/
def loadSettings (disk : Disk m) (usual asked : Option String) : m (Except Error Settings) := do
  match asked with
  | some path =>
    match ← disk.text path with
    | .absent => return .error (.noSettingsFile path)
    | file => return readSettings file
  | none =>
    match usual with
    | some path => return readSettings (← disk.text path)
    | none => return .ok .standard

/-- What to open: a path, and a passphrase unless the database is not encrypted. -/
structure Door where
  path : String
  unencrypted : Bool
  key : Option String

/-- The passphrase with which a database is opened, if there is one when there must be one. -/
def Door.passphrase (d : Door) : Except Error (Option String) :=
  if d.unencrypted then .ok none
  else match d.key with
    | some k => .ok (some k)
    | none => .error .noPassphrase

/-- What is said when a database cannot be opened. -/
def Door.complaint (d : Door) : String :=
  if d.unencrypted then "Failed to open database (unencrypted)" else "Failed to open database"

/-- A database that is open. -/
structure OpenDatabase where
  location : Location
  passphrase : Option String
  store : Store

/-- Keeps what the store of an open database has become, if it may be written. -/
def OpenDatabase.keep (disk : Disk m) (db : OpenDatabase) (s : Store) : m Unit :=
  if db.location.isReadOnly then pure () else disk.save db.location db.passphrase s

/-- Opens a database. -/
def Door.enter (disk : Disk m) (d : Door) : m (Except Failure OpenDatabase) := do
  match d.passphrase, (Location.read d.path).mapError Error.noDatabase with
  | .error e, _ => return .error (.dueTo d.complaint e)
  | .ok _, .error e => return .error (.dueTo d.complaint e)
  | .ok passphrase, .ok l =>
    match ← disk.load l passphrase with
    | .ok s => return .ok ⟨l, passphrase, s⟩
    | .error e => return .error (.dueTo d.complaint e)

/-- What `init` prints before it opens the database. -/
def initHead (path : String) : String := lines ["🔧 Initializing database at " ++ path ++ "..."]

/-- What `init` prints when the database is there. -/
def initTail (unencrypted : Bool) : String :=
  lines [if unencrypted then "   ⚠️  Encryption: DISABLED (--no-encrypt)"
      else "   🔒 Encryption: ENABLED",
    "✅ Database initialized successfully!",
    "",
    "Next steps:",
    "  1. Add transactions: cinch transactions add --date 2024-05-01 --amount -4.50 --desc COFFEE",
    "  2. Save a filter:    cinch filters add Coffee 'desc:coffee'",
    "  3. Add a rule:       cinch rules add coffee --filter Coffee --category Coffee"]

/-- Makes a database. -/
def makeDatabase (disk : Disk m) (d : Door) : m Outcome := do
  match ← d.enter disk with
  | .error f => return .failure (initHead d.path) f
  | .ok db =>
    db.keep disk db.store
    return .success (initHead d.path ++ initTail d.unencrypted)

/-- Performs a command on a database; what it wrote before it failed stays written. -/
def performOn (disk : Disk m) (d : Door) (c : Setting) (r : Request) : m Outcome := do
  match ← d.enter disk with
  | .error f => return .failure "" f
  | .ok db =>
    let (result, s) := perform c r (!db.location.isReadOnly) db.store
    db.keep disk s
    match result with
    | .ok output => return .success output
    | .error f => return .failure "" f

/-- **Runs an invocation.** -/
def runInvocation (disk : Disk m) (around : Surroundings) (i : Invocation) : m Outcome := do
  match ← loadSettings disk around.settingsPath i.settings with
  | .error e => return .failure "" (.dueTo "Failed to load settings" e)
  | .ok settings =>
    let c : Setting := ⟨⟨i.json, settings⟩, around.today⟩
    let d : Door := ⟨i.database.getD settings.path, i.unencrypted || !settings.encrypt, around.key⟩
    match i.request with
    -- this command needs no database, and works without a passphrase
    | .checkFilter expression => return .ofPrinted (checkFilter c.style expression)
    | .init => makeDatabase disk d
    | r => performOn disk d c r

/-- **Runs the program.** -/
def run (disk : Disk m) (around : Surroundings) (args : List String) : m Outcome := do
  match invocation args with
  | .ok i => runInvocation disk around i
  | .error stop => return stop.outcome

end

end Coffer.Command
