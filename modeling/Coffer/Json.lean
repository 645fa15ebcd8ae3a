/-
**Documents in JSON, laid out over several lines.**

A document is a tree.  It is written with two blanks of indentation for each level, an empty list
or object on one line, and numbers in compact form; a number that is not finite is written `null`.

Main definitions: `Coffer.Json.Item`, `Coffer.Json.quote`, `Coffer.Json.Item.layOut`.
-/

import Coffer.Number.Written

set_option autoImplicit false

namespace Coffer.Json

/-- **A JSON document.** -/
inductive Item where
  | null
  | flag (b : Bool)
  | integer (n : Int)
  | number (x : Float)
  | text (s : String)
  | list (items : List Item)
  /-- An object: its keys with their values, in the order in which they are written. -/
  | object (entries : List (String × Item))

/-! ### Texts -/

/-- The digits of a hexadecimal number of two places. -/
def twoHexDigits (n : Nat) : List Char := [Nat.digitChar (n / 16), Nat.digitChar (n % 16)]

/-- How a character is written inside a text. -/
def quoteChar (c : Char) : List Char :=
  match c with
  | '"' => ['\\', '"']
  | '\\' => ['\\', '\\']
  | '\n' => ['\\', 'n']
  | '\r' => ['\\', 'r']
  | '\t' => ['\\', 't']
  | '\x08' => ['\\', 'b']
  | '\x0c' => ['\\', 'f']
  | _ => if c.toNat < 32 then ['\\', 'u', '0', '0'] ++ twoHexDigits c.toNat else [c]

/-- A text between quotes. -/
def quote (s : String) : String := String.ofList ('"' :: s.toList.flatMap quoteChar ++ ['"'])

/-! ### Layout -/

/-- A new line with the indentation of a level. -/
def newLine (level : Nat) : String := String.ofList ('\n' :: List.replicate (2 * level) ' ')

/-- Parts between brackets, each on a line of its own; brackets without parts are written
together. -/
def bracket (opening closing : String) (level : Nat) (parts : List String) : String :=
  match parts with
  | [] => opening ++ closing
  | _ =>
    opening ++ newLine (level + 1) ++ String.intercalate ("," ++ newLine (level + 1)) parts
      ++ newLine level ++ closing

namespace Item

/-- A text, or `null` if there is none. -/
def ofText? (s : Option String) : Item := (s.map text).getD null

/-- An integer, or `null` if there is none. -/
def ofInteger? (n : Option Int) : Item := (n.map integer).getD null

/-- A count. -/
def count (n : Nat) : Item := integer n

mutual

/-- The text of a document at a level of indentation. -/
def layOutAt (level : Nat) : Item → String
  | .null => "null"
  | .flag b => if b then "true" else "false"
  | .integer n => toString n
  | .number x => (Binary64.compact? x).getD "null"
  | .text s => quote s
  | .list items => bracket "[" "]" level (layOutItems (level + 1) items)
  | .object entries => bracket "\x7b" "\x7d" level (layOutEntries (level + 1) entries)

/-- The texts of the items of a list. -/
def layOutItems (level : Nat) : List Item → List String
  | [] => []
  | i :: rest => layOutAt level i :: layOutItems level rest

/-- The texts of the entries of an object. -/
def layOutEntries (level : Nat) : List (String × Item) → List String
  | [] => []
  | (key, i) :: rest => (quote key ++ ": " ++ layOutAt level i) :: layOutEntries level rest

end

/-- **The text of a document.** -/
def layOut (i : Item) : String := layOutAt 0 i

end Item

/-- Items are laid out one by one. -/
theorem Item.layOutItems_eq (level : Nat) (items : List Item) :
    layOutItems level items = items.map (layOutAt level) := by
  induction items with
  | nil => rfl
  | cons i rest ih => simp [layOutItems, ih]

/-- Entries are laid out one by one. -/
theorem Item.layOutEntries_eq (level : Nat) (entries : List (String × Item)) :
    layOutEntries level entries = entries.map fun e => quote e.1 ++ ": " ++ layOutAt level e.2 := by
  induction entries with
  | nil => rfl
  | cons e rest ih => simp [layOutEntries, ih]

end Coffer.Json
