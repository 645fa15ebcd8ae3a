/-
**TOML documents as trees.**

A document is a table of items under keys.  How a table came about decides what may still be added
to it: a table with a header of its own has it once, a table that dotted keys made is extended by
dotted keys only, and a table written in one line is not extended at all.

Main definitions:

* `Coffer.Toml.Item`, `Coffer.Toml.Origin` — the tree;
* `Coffer.Toml.assign`, `Coffer.Toml.openTable`, `Coffer.Toml.openElement` — the three statements of
  a document;
* `Coffer.Toml.Item.get?` — what is under a key.
-/

set_option autoImplicit false

namespace Coffer.Toml

/-- How a table came about. -/
inductive Origin where
  /-- By the header of a table below it. -/
  | implied
  /-- By dotted keys. -/
  | dotted
  /-- By its own header. -/
  | header
  /-- Written in one line with all its entries. -/
  | inline
  deriving DecidableEq, Repr

/-- An item of a document. -/
inductive Item where
  | text (s : String)
  | flag (b : Bool)
  /-- A number, date or time, as it is written. -/
  | scalar (written : String)
  | list (items : List Item)
  | table (origin : Origin) (entries : List (String × Item))
  /-- Tables with one header each, listed under one key. -/
  | tables (items : List Item)

/-- The entries of a table. -/
abbrev Entries := List (String × Item)

/-- What is under a key. -/
def Entries.get? (es : Entries) (k : String) : Option Item := (es.find? fun e => e.1 == k).map (·.2)

/-- Puts an item under a key, in place of what was there. -/
def Entries.put (es : Entries) (k : String) (i : Item) : Entries :=
  match es with
  | [] => [(k, i)]
  | e :: rest => if e.1 = k then (k, i) :: rest else e :: Entries.put rest k i

/-! ### Statements -/

/-- Changes the table at the end of a path, making tables on the way. -/
def within (made : Origin) (change : Origin → Entries → Option Entries) :
    List String → Origin → Entries → Option Entries
  | [], origin, es => change origin es
  | k :: rest, _, es =>
    match es.get? k with
    | none => (within made change rest made []).map fun sub => es.put k (.table made sub)
    | some (.table origin sub) =>
      -- a table in one line is complete, and dotted keys do not reach into a headed table
      if origin = .inline ∨ (made = .dotted ∧ origin = .header) then none
      else (within made change rest origin sub).map fun sub => es.put k (.table origin sub)
    | some (.tables items) =>
      match items.getLast? with
      | some (.table origin sub) =>
        (within made change rest origin sub).map fun sub =>
          es.put k (.tables (items.dropLast ++ [.table origin sub]))
      | _ => none
    | some _ => none

/-- Puts an item under a dotted key of a table. A key has its item once, and dotted keys lead only
to tables that dotted keys made. -/
def assignIn (path : List String) (k : String) (i : Item) (origin : Origin) (es : Entries) :
    Option Entries :=
  within .dotted (fun o es =>
    if path ≠ [] ∧ o ≠ .dotted then none
    else match es.get? k with
      | some _ => none
      | none => some (es ++ [(k, i)])) path origin es

/-- The statement `key = item` under the header of a table. -/
def assign (header path : List String) (k : String) (i : Item) (es : Entries) : Option Entries :=
  within .implied (assignIn path k i) header .header es

/-- The header of a table. -/
def openTable (parents : List String) (k : String) (es : Entries) : Option Entries :=
  within .implied (fun _ es =>
    match es.get? k with
    | none => some (es ++ [(k, .table .header [])])
    -- a table that so far only lay on the way gets its header now
    | some (.table .implied sub) => some (es.put k (.table .header sub))
    | some _ => none) parents .header es

/-- The header of one of several tables under a key. -/
def openElement (parents : List String) (k : String) (es : Entries) : Option Entries :=
  within .implied (fun _ es =>
    match es.get? k with
    | none => some (es ++ [(k, .tables [.table .header []])])
    | some (.tables items) => some (es.put k (.tables (items ++ [.table .header []])))
    | some _ => none) parents .header es

end Coffer.Toml
