/-
**The store as it is kept in a file.**

All that is in the store is written down as a row of *cells*, which are texts: table after table,
each with the number of its records in front, and record after record.  A cell stands in the file
with its length in front of it, so that it may hold anything.  Numbers are kept to the last bit.

Main definitions:

* `Coffer.Saved.Codec` — writing values as cells and reading them back;
* `Coffer.Saved.store` — the codec of the store;
* `Coffer.Saved.encode`, `Coffer.Saved.decode?` — the store as the text of a file.
-/

import Coffer.Number.Reading
import Coffer.Store.Tables

set_option autoImplicit false

namespace Coffer.Saved

/-! ### Codecs -/

/-- **A way to write values as cells and to read them back.** What is read is taken from the front,
and the other cells are left. -/
structure Codec (α : Type) where
  write : α → List String
  read : List String → Option (α × List String)

namespace Codec

variable {α β : Type}

/-- A text is one cell. -/
def text : Codec String where
  write s := [s]
  read
    | s :: rest => some (s, rest)
    | [] => none

/-- A value in one cell. -/
def cell (write : α → String) (read : String → Option α) : Codec α where
  write a := [write a]
  read
    | s :: rest => (read s).map (·, rest)
    | [] => none

/-- A natural number. -/
def natural : Codec Nat := cell toString fun s => Reading.natural? s.toList

/-- An integer. -/
def integer : Codec Int := cell toString fun s =>
  let (negative, digits) := Reading.sign s.toList
  (Reading.natural? digits).map (Reading.withSign negative)

/-- A number, by its bits. -/
def number : Codec Float :=
  cell (fun x => toString x.toBits.toNat) fun s =>
    (Reading.natural? s.toList).map fun n => Float.ofBits (UInt64.ofNat n)

/-- A flag. -/
def flag : Codec Bool :=
  cell (fun b => if b then "1" else "0") fun s =>
    match s with
    | "1" => some true
    | "0" => some false
    | _ => none

/-- One value after another. -/
def pair (first : Codec α) (second : Codec β) : Codec (α × β) where
  write p := first.write p.1 ++ second.write p.2
  read cells := do
    let (a, cells) ← first.read cells
    let (b, cells) ← second.read cells
    return ((a, b), cells)

/-- The same cells for other values. -/
def via (c : Codec α) (make : α → β) (parts : β → α) : Codec β where
  write b := c.write (parts b)
  read cells := (c.read cells).map fun r => (make r.1, r.2)

/-- A value that may be missing: a flag stands in front. -/
def optional (c : Codec α) : Codec (Option α) where
  write
    | some a => "1" :: c.write a
    | none => ["0"]
  read
    | "1" :: rest => (c.read rest).map fun r => (some r.1, r.2)
    | "0" :: rest => some (none, rest)
    | _ => none

/-- So many values. -/
def readMany (c : Codec α) : Nat → List String → Option (List α × List String)
  | 0, cells => some ([], cells)
  | n + 1, cells => do
    let (a, cells) ← c.read cells
    let (rest, cells) ← readMany c n cells
    return (a :: rest, cells)

/-- A list of values, with their number in front. -/
def list (c : Codec α) : Codec (List α) where
  write values := natural.write values.length ++ values.flatMap c.write
  read cells := do
    let (n, cells) ← natural.read cells
    c.readMany n cells

end Codec

open Codec

/-! ### Records -/

/-- An account. -/
def account : Codec Account :=
  (integer.pair text).via (fun (i, n) => ⟨i, n⟩) fun a => (a.id, a.name)

/-- A category. -/
def category : Codec Category :=
  (integer.pair (text.pair (integer.pair text.optional))).via
    (fun (i, n, o, c) => ⟨i, n, o, c⟩) fun a => (a.id, a.name, a.sortOrder, a.color)

/-- A tag. -/
def tag : Codec Tag :=
  (integer.pair (text.pair text.optional)).via (fun (i, n, c) => ⟨i, n, c⟩)
    fun a => (a.id, a.name, a.color)

/-- A transaction. -/
def transaction : Codec TransactionRow :=
  (integer.pair (integer.optional.pair (text.pair (text.optional.pair (text.pair
      (number.pair integer.optional)))))).via
    (fun (i, a, d, r, t, x, c) => ⟨i, a, d, r, t, x, c⟩)
    fun t => (t.id, t.account, t.date, t.dateRaw, t.description, t.amount, t.category)

/-- A tag on a transaction. -/
def link : Codec TagLink :=
  (integer.pair (integer.pair text)).via (fun (t, g, s) => ⟨t, g, s⟩)
    fun l => (l.transaction, l.tag, l.source)

/-- A saved filter. -/
def savedFilter : Codec SavedFilter :=
  (integer.pair (text.pair text)).via (fun (i, n, e) => ⟨i, n, e⟩) fun f =>
    (f.id, f.name, f.expression)

/-- What a rule says. -/
def draft : Codec RuleDraft :=
  (text.pair (integer.pair (integer.optional.pair (integer.list.pair integer)))).via
    (fun (n, f, c, ts, o) => ⟨n, f, c, ts, o⟩)
    fun r => (r.name, r.filter, r.setCategory, r.addTags, r.sortOrder)

/-- A rule. -/
def rule : Codec Rule :=
  (draft.pair (integer.pair flag)).via (fun (d, i, e) => ⟨d, i, e⟩)
    fun r => (r.toRuleDraft, r.id, r.enabled)

/-- A budget. -/
def budget : Codec Budget :=
  (integer.pair (integer.pair number)).via (fun (i, c, x) => ⟨i, c, x⟩)
    fun b => (b.id, b.category, b.amount)

/-- The amount of a budget for one month. -/
def budgetOverride : Codec BudgetOverride :=
  (integer.pair (text.pair number)).via (fun (b, m, x) => ⟨b, m, x⟩)
    fun o => (o.budget, o.month, o.amount)

/-- A target. -/
def target : Codec TargetRow :=
  (integer.pair (text.pair (integer.pair (text.pair number)))).via
    (fun (i, n, f, p, x) => ⟨i, n, f, p, x⟩) fun g => (g.id, g.name, g.filter, g.period, g.amount)

/-- The amount of a target for one period. -/
def targetOverride : Codec TargetOverride :=
  (integer.pair (text.pair number)).via (fun (g, p, x) => ⟨g, p, x⟩)
    fun o => (o.target, o.period, o.amount)

/-- An offset. -/
def offset : Codec CreditOffset :=
  (integer.pair (integer.pair (integer.pair number))).via (fun (i, c, d, x) => ⟨i, c, d, x⟩)
    fun o => (o.id, o.credit, o.debit, o.amount)

/-- **The codec of the store:** its tables one after another. -/
def store : Codec Store :=
  (account.list.pair (category.list.pair (tag.list.pair (transaction.list.pair (link.list.pair
      (savedFilter.list.pair (rule.list.pair (budget.list.pair (budgetOverride.list.pair
        (target.list.pair (targetOverride.list.pair offset.list))))))))))).via
    (fun (a, c, g, t, l, f, r, b, bo, s, so, o) => ⟨a, c, g, t, l, f, r, b, bo, s, so, o⟩)
    fun s => (s.accounts, s.categories, s.tags, s.transactions, s.links, s.filters, s.rules,
      s.budgets, s.budgetOverrides, s.targets, s.targetOverrides, s.offsets)

/-! ### Cells as text -/

/-- A cell with its length in front. -/
def packCell (s : String) : List Char := Nat.toDigits 10 s.length ++ ':' :: s.toList

/-- A row of cells as one text. -/
def pack (cells : List String) : List Char := cells.flatMap packCell

/-- Reads the cells of a text, at most so many. -/
def unpack? : Nat → List Char → Option (List String)
  | _, [] => some []
  | 0, _ :: _ => none
  | fuel + 1, text => do
    let digits := text.takeWhile Char.isDigit
    let n ← Reading.natural? digits
    match text.drop digits.length with
    | ':' :: rest =>
      if rest.length < n then none
      else (unpack? fuel (rest.drop n)).map (String.ofList (rest.take n) :: ·)
    | _ => none

/-- **The store as the text of a file.** -/
def encode (s : Store) : String := String.ofList (pack (store.write s))

/-- Reads a store from the text of a file. -/
def decode? (text : String) : Option Store := do
  let cells ← unpack? text.length text.toList
  match ← store.read cells with
  -- nothing may stand behind the last table
  | (s, []) => return s
  | (_, _ :: _) => none

end Coffer.Saved
