/-
**What holds after every run of the program.**

A run opens a database, performs one command on it, and keeps what the command has left.  What holds
of the empty store and is kept by every command therefore holds of every database in a folder into
which nothing but texts is put from outside: a text is no database, or one that is still empty.

Main definitions:

* `Coffer.Command.Folder.Stores` — what holds of every database in a folder;
* `Coffer.Command.Folder.Event`, `Coffer.Command.Folder.after` — what happens to the files of a
  folder.

Main results:

* `Coffer.Command.Folder.keeps_run` — **what every command keeps is kept of every database by every
  run;**
* `Coffer.Command.wellFormed_of_commands` — **whatever commands are given, and in whatever way they
  end, offsets, amounts for one period and rules stay what they should be.**
-/

import Coffer.Command.Folder
import Coffer.Proofs.Command.WellFormed

set_option autoImplicit false

namespace Coffer.Command

namespace Folder

variable {P : Store → Prop} {f : Folder} {l : Location} {key : Option String} {s : Store}

/-- A property of stores holds of every database in a folder. -/
def Stores (P : Store → Prop) (f : Folder) : Prop :=
  ∀ place d hasLog, (place, FileContent.database d hasLog) ∈ f.files → P d.store

theorem stores_empty : Stores P empty := nofun

/-! ### Single files -/

theorem Stores.put (hf : f.Stores P) {content : FileContent} (place : List String)
    (h : ∀ d hasLog, content = .database d hasLog → P d.store) :
    (f.put place content).Stores P := by
  intro place' d hasLog hmem
  rcases List.mem_cons.1 hmem with heq | hmem
  · exact h d hasLog (Prod.mk.inj heq).2.symm
  · exact hf place' d hasLog (List.mem_filter.1 hmem).1

theorem Stores.write (hf : f.Stores P) (path text : String) : (f.write path text).Stores P :=
  hf.put _ nofun

theorem Stores.withFile (hf : f.Stores P) (l : Location) : (f.withFile l).Stores P := by
  unfold Folder.withFile
  dsimp only
  split
  · exact hf.put _ nofun
  · exact hf

theorem Stores.save (hf : f.Stores P) (hs : P s) : (f.save l key s).Stores P := by
  unfold Folder.save
  split
  · exact hf
  · refine hf.put _ fun d hasLog heq => ?_
    cases heq
    exact hs

/-- What is at a place is one of the files. -/
theorem mem_of_at?_eq_some {place : List String} {content : FileContent}
    (h : f.at? place = some content) :
    (place, content) ∈ f.files := by
  obtain ⟨before, behind, hfiles, -⟩ := List.lookup_eq_some_iff.1 h
  rw [hfiles]
  simp

/-- A new database is empty. -/
theorem eq_empty_of_fresh (h : Database.fresh l = .ok s) : s = .empty := by
  unfold Database.fresh at h
  split at h
  · cases h
  · cases h
    rfl

/-- What is opened is empty, or the store of a database. -/
theorem Stores.openFile (hempty : P .empty) {place : List String} {content : FileContent}
    (hcontent : ∀ d hasLog, content = .database d hasLog → P d.store)
    (h : Folder.openFile l key place content = .ok s) : P s := by
  cases content with
  | text t =>
      unfold Folder.openFile at h
      dsimp only at h
      split at h
      · obtain ⟨s', hs', h⟩ := Except.of_bind_eq_ok h
        obtain rfl := eq_empty_of_fresh hs'
        split at h
        · cases h
          exact hempty
        · cases h
      · cases h
  | database d hasLog =>
      have hstore := hcontent d hasLog rfl
      unfold Folder.openFile Database.openWith at h
      dsimp only at h
      split at h
      · cases h
      · next d' hopen =>
          split at hopen
          · cases hopen
            split at h
            · cases h
            · split at h
              · cases h
              · cases h
                exact hstore
          · cases hopen

/-- So is what is loaded. -/
theorem Stores.load (hempty : P .empty) (hf : f.Stores P) (h : f.load l key = .ok s) : P s := by
  unfold Folder.load at h
  dsimp only at h
  split at h
  · obtain rfl := eq_empty_of_fresh (Except.mapError_eq_ok_iff.1 h)
    exact hempty
  · split at h
    · cases h
    · split at h
      · next content hat =>
          refine Stores.openFile hempty (fun d hasLog heq => ?_) (Except.mapError_eq_ok_iff.1 h)
          exact hf _ d hasLog (heq ▸ mem_of_at?_eq_some hat)
      · cases h

/-! ### Programs on a folder -/

section

variable {α β : Type}

/-- What holds of all databases is kept, and the result is as it should be. -/
def Keeps (P : Store → Prop) (x : StateM Folder α) (Q : α → Prop) : Prop :=
  ∀ f, f.Stores P → (x.run f).2.Stores P ∧ Q (x.run f).1

variable {x : StateM Folder α} {g : α → StateM Folder β} {Q : α → Prop} {R : β → Prop}

theorem keeps_pure {a : α} (ha : Q a) : Keeps P (pure a) Q := fun _ hf => ⟨hf, ha⟩

theorem Keeps.bind (hx : Keeps P x Q) (hg : ∀ a, Q a → Keeps P (g a) R) : Keeps P (x >>= g) R := by
  intro f hf
  obtain ⟨hkept, ha⟩ := hx f hf
  exact hg _ ha _ hkept

theorem keeps_text (path : String) : Keeps P (disk.text path) fun _ => True :=
  fun _ hf => ⟨hf, trivial⟩

theorem keeps_load (hempty : P .empty) (l : Location) (key : Option String) :
    Keeps P (disk.load l key) fun result => ∀ s, result = .ok s → P s := by
  intro f hf
  have hmade := hf.withFile l
  exact ⟨hmade, fun s h => Stores.load hempty hmade h⟩

theorem keeps_save (hs : P s) (l : Location) (key : Option String) :
    Keeps P (disk.save l key s) fun _ => True :=
  fun _ hf => ⟨hf.save hs, trivial⟩

end

/-! ### Runs -/

theorem keeps_loadSettings (usual asked : Option String) :
    Keeps P (loadSettings disk usual asked) fun _ => True := by
  unfold loadSettings
  cases asked with
  | some path =>
      refine (keeps_text path).bind fun file _ => ?_
      cases file <;> exact keeps_pure trivial
  | none =>
      cases usual with
      | some path => exact (keeps_text path).bind fun _ _ => keeps_pure trivial
      | none => exact keeps_pure trivial

theorem keeps_keep (db : OpenDatabase) (hs : P s) : Keeps P (db.keep disk s) fun _ => True := by
  unfold OpenDatabase.keep
  split
  · exact keeps_pure trivial
  · exact keeps_save hs _ _

/-- What is opened has the property. -/
theorem keeps_enter (hempty : P .empty) (d : Door) :
    Keeps P (d.enter disk) fun result => ∀ db, result = .ok db → P db.store := by
  unfold Door.enter
  split
  · exact keeps_pure nofun
  · exact keeps_pure nofun
  · next passphrase l _ _ =>
      refine (keeps_load hempty l passphrase).bind fun result hresult => ?_
      cases result with
      | error e => exact keeps_pure nofun
      | ok s =>
          refine keeps_pure fun db hdb => ?_
          cases hdb
          exact hresult s rfl

variable (hempty : P .empty) (hperform : ∀ c r w s, P s → P (perform c r w s).2)

include hempty

theorem keeps_makeDatabase (d : Door) : Keeps P (makeDatabase disk d) fun _ => True := by
  refine (keeps_enter hempty d).bind fun result hresult => ?_
  cases result with
  | error e => exact keeps_pure trivial
  | ok db => exact (keeps_keep db (hresult db rfl)).bind fun _ _ => keeps_pure trivial

include hperform

theorem keeps_performOn (d : Door) (c : Setting) (r : Request) :
    Keeps P (performOn disk d c r) fun _ => True := by
  refine (keeps_enter hempty d).bind fun result hresult => ?_
  cases result with
  | error e => exact keeps_pure trivial
  | ok db =>
      have hafter := hperform c r (!db.location.isReadOnly) db.store (hresult db rfl)
      dsimp only
      rcases hp : perform c r (!db.location.isReadOnly) db.store with ⟨result, s⟩
      rw [hp] at hafter
      refine (keeps_keep db hafter).bind fun _ _ => ?_
      cases result <;> exact keeps_pure trivial

/-- **What every command keeps is kept of every database by every run.** -/
theorem keeps_run (around : Surroundings) (args : List String) :
    Keeps P (run disk around args) fun _ => True := by
  unfold run
  cases invocation args with
  | error stop => exact keeps_pure trivial
  | ok i =>
      refine (keeps_loadSettings _ _).bind fun settings _ => ?_
      cases settings with
      | error e => exact keeps_pure trivial
      | ok settings =>
          dsimp only
          split
          · exact keeps_pure trivial
          · exact keeps_makeDatabase hempty _
          · exact keeps_performOn hempty hperform _ _ _

/-- What happens to the files of a folder. -/
inductive Event where
  /-- A text is put into the folder from outside. -/
  | write (path text : String)
  /-- The program is run. -/
  | run (around : Surroundings) (args : List String)

/-- A folder after something has happened. -/
def after (f : Folder) : Event → Folder
  | .write path text => f.write path text
  | .run around args => ((Command.run disk around args).run f).2

/-- This holds of any row of runs, with texts that are written in between. -/
theorem Stores.events (hf : f.Stores P) (events : List Event) :
    (events.foldl after f).Stores P := by
  induction events generalizing f with
  | nil => exact hf
  | cons e rest ih =>
      cases e with
      | write path text => exact ih (hf.write path text)
      | run around args => exact ih (keeps_run hempty hperform around args f hf).1

end Folder

/-! ### Offsets, amounts for one period and rules -/

/-- **Whatever commands are given, and in whatever way they end, offsets, amounts for one period and
rules stay what they should be.**  Every offset is of an amount greater than zero, and of a credit
against a debit.  What is set for a target is under the key of a period of its length, what is set
for a budget is under the key of a month, both in the form in which keys are written, and the target
and the budget are there.  Every rule gives a category or a tag that is there.  This holds of the
store after any row of commands, whether they may write to it or not; and of every database in a
folder after any row of runs of the program, whatever arguments and surroundings they have and
whatever texts are put there in between. -/
theorem wellFormed_of_commands :
    (∀ calls : List Call,
      (afterCalls .empty calls).WellFormed ∧ (afterCalls .empty calls).Integrity) ∧
    ∀ events : List Folder.Event,
      (events.foldl Folder.after .empty).Stores fun s => s.WellFormed ∧ s.Integrity := by
  have hinvariant : ∀ s, Store.CheckedSteps .empty s → s.WellFormed ∧ s.Integrity :=
    fun s h => ⟨h.wellFormed, h.integrity⟩
  constructor
  · intro calls
    exact hinvariant _ (checkedSteps_afterCalls .empty calls)
  · intro events place d hasLog hmem
    have hstores : (events.foldl Folder.after .empty).Stores (Store.CheckedSteps .empty) :=
      Folder.stores_empty.events .refl
        (fun c r w s hs => hs.trans (checkedSteps_perform c r w s)) events
    exact hinvariant d.store (hstores place d hasLog hmem)

/-- Commands of which those that check are refused until they are right: an offset of what is not a
number, one the wrong way round and one of less than nothing, an amount of a budget for a quarter,
and a rule that says nothing. -/
def refusedAtFirst : List Call :=
  [.addTransaction ⟨"2024-05-01", 20, "Sold", none, none, []⟩,
    .addTransaction ⟨"05/02/2024", -30, "Bought", none, some "Food", []⟩,
    .addOffset 1 2 (0 / 0), .addOffset 2 1 5, .addOffset 1 2 (-5), .addOffset 1 2 5,
    .setBudget "food" 100 none, .setBudget "food" 80 (some "2024-Q2"),
    .setBudget "food" 80 (some " 2024-05 "), .addRule "idle" "1" none [] 0].map fun r =>
    ⟨⟨⟨false, .standard⟩, .min⟩, r, true⟩

example : (afterCalls .empty refusedAtFirst).offsets = [⟨1, 1, 2, 5⟩] ∧
    (afterCalls .empty refusedAtFirst).budgetOverrides = [⟨1, "2024-05", 80⟩] ∧
    (afterCalls .empty refusedAtFirst).rules = [] := by
  decide +kernel

end Coffer.Command
