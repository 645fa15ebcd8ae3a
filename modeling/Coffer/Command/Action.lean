/-
**What a command does with the store, and how it fails.**

A command works on the store step by step.  A step that is refused ends the command, and what the
steps before it wrote stays written.  On a store that is only to be read, every step that writes is
refused, even if it would change nothing.

Main definitions:

* `Coffer.Command.Failure`, with the report `Coffer.Command.Failure.report` of it;
* `Coffer.Command.Action` — a row of steps on the store;
* `Coffer.Command.Action.consult`, `Action.ensure`, `Action.update`, `Action.attempt`,
  `Action.carry` — single steps.
-/

import Coffer.Store.Database
import Coffer.Store.Snapshot

set_option autoImplicit false

namespace Coffer.Command

/-! ### Failures -/

/-- Why a command fails: what went wrong, and the causes behind it from the nearest to the
farthest. -/
structure Failure where
  message : String
  causes : List String
  deriving DecidableEq, Repr

namespace Failure

/-- A failure without causes. -/
def plain (message : String) : Failure := ⟨message, []⟩

/-- An error of the ledger as a failure. -/
def ofError (e : Error) : Failure := ⟨e.message, e.causes⟩

/-- An error of the ledger as the cause of a failure. -/
def dueTo (message : String) (e : Error) : Failure := ⟨message, e.message :: e.causes⟩

/-- A cause with something in front of its first line and blanks in front of the others. -/
def indented (first others : String) (cause : String) : String :=
  first ++
    String.ofList (cause.toList.flatMap fun c => if c = '\n' then c :: others.toList else [c])

/-- The list of the causes: a single one is not numbered. -/
def causeLines : List String → List String
  | [] => []
  | [cause] => [indented "    " "    " cause]
  | causes => (causes.zipIdx).map fun c => indented ("    " ++ toString c.2 ++ ": ") "       " c.1

/-- **The report of a failure.** -/
def report (f : Failure) : String :=
  let causes := match f.causes with
    | [] => ""
    | _ => "\n\nCaused by:\n" ++ String.intercalate "\n" (causeLines f.causes)
  "Error: " ++ f.message ++ causes ++ "\n"

end Failure

/-! ### Actions -/

/-- **A row of steps on the store,** which knows whether the store may be written. -/
abbrev Action (α : Type) := ReaderT Bool (ExceptT Failure (StateM Store)) α

namespace Action

/-- Carries out an action on a store, which may be written or not. -/
def carryOut {α : Type} (writable : Bool) (a : Action α) (s : Store) : Except Failure α × Store :=
  (ExceptT.run (a.run writable)).run s

/-- Ends the action. -/
def fail {α : Type} (message : String) : Action α := throw (.plain message)

/-- What is there, or the end of the action. -/
def demand {α : Type} (message : String) : Option α → Action α
  | some a => return a
  | none => fail message

/-- Reads from the store. -/
def consult {α : Type} (read : Store → Except Error α) : Action α := do
  match read (← get) with
  | .ok a => return a
  | .error e => throw (.ofError e)

/-- Reads from the store, and says what was tried if this cannot be done. -/
def consultFor {α : Type} (message : String) (read : Store → Except Error α) : Action α := do
  match read (← get) with
  | .ok a => return a
  | .error e => throw (.dueTo message e)

/-- Ends the action if the store may not be written. -/
def demandWritable : Action Unit := do
  if !(← read) then throw (.ofError (.store .readOnly))

/-- Writes to the store what it does not refuse. -/
def update {α : Type} (write : Store → α × Store) : Action α := do
  demandWritable
  let (a, s) := write (← get)
  set s
  return a

/-- What is there already, or else what is written to the store. -/
def ensure {α : Type} (find? : Store → Option α) (write : Store → α × Store) : Action α := do
  match find? (← get) with
  | some a => return a
  | none => update write

/-- Writes to the store what it can refuse. -/
def attempt {α : Type} (write : Store → Except StoreError (α × Store)) : Action α := do
  demandWritable
  match write (← get) with
  | .ok (a, s) => set s; return a
  | .error e => throw (.ofError (.store e))

/-- Writes to the store what it can refuse and what has no answer. -/
def carry (write : Store → Except StoreError Store) : Action Unit :=
  attempt fun s => (write s).map ((), ·)

end Action

/-! ### Lines -/

/-- Lines of output. -/
def lines (ls : List String) : String := String.join (ls.map (· ++ "\n"))

end Coffer.Command
