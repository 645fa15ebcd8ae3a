/-
**Reading TOML.**

A document is a row of statements, one to a line.  Strings and flags are read; numbers, dates and
times are checked and kept as they are written.  Lists and tables are nested 79 deep at most, and a
key has at most 79 parts.  Nested items are read with a bound on their number that the length of the
text supplies.

Main definitions:

* `Coffer.Toml.item` — an item, and the text behind it;
* `Coffer.Toml.statements` — the statements of a text;
* `Coffer.Toml.read?` — the document of a text.
-/

import Coffer.Toml.Item
import Coffer.Toml.Scalar

set_option autoImplicit false

namespace Coffer.Toml

/-! ### Characters -/

/-- Whether a character can stand in a key without quotes. -/
def isKeyChar (c : Char) : Bool := c.isAlphanum || c == '_' || c == '-'

/-- Whether a character can be part of a number, date or time. -/
def isScalarChar (c : Char) : Bool := isKeyChar c || c == '+' || c == '.' || c == ':'

/-- Whether a character may not stand in a string or comment: the control characters but the
tab. -/
def isForbidden (c : Char) : Bool := (decide (c.toNat < 0x20) && c != '\t') || c.toNat == 0x7F

/-- Drops spaces and tabs. -/
def skipBlanks (s : List Char) : List Char := s.dropWhile fun c => c == ' ' || c == '\t'

/-- Drops spaces, tabs, line ends and comments; `inComment` tells whether a comment is open. -/
def skipVoid (inComment : Bool) : List Char → List Char
  | [] => []
  | '\r' :: '\n' :: rest => skipVoid false rest
  | c :: rest =>
    if c = '\n' then skipVoid false rest
    else if inComment then if isForbidden c then c :: rest else skipVoid true rest
    else if c = ' ' ∨ c = '\t' then skipVoid false rest
    else if c = '#' then skipVoid true rest
    else c :: rest

/-- The text behind the end of a line, if nothing but a comment stands before it. -/
def lineEnd? (s : List Char) : Option (List Char) :=
  let rest := match skipBlanks s with
    | '#' :: comment => comment.dropWhile fun c => !isForbidden c
    | other => other
  match rest with
  | [] => some []
  | '\n' :: rest => some rest
  | '\r' :: '\n' :: rest => some rest
  | _ => none

/-! ### Strings -/

/-- The character of a code point in hexadecimal digits. -/
def codePoint? (digits : List Char) : Option Char := do
  let n ← Reading.inBase? 16 digits
  if n < 0xD800 ∨ (0xDFFF < n ∧ n < 0x110000) then some (Char.ofNat n) else none

/-- The character of an escape of one letter. -/
def escape? (c : Char) : Option Char :=
  match c with
  | 'b' => some '\x08'
  | 't' => some '\t'
  | 'n' => some '\n'
  | 'f' => some '\x0c'
  | 'r' => some '\r'
  | '"' => some '"'
  | '\\' => some '\\'
  | _ => none

/-- The text up to the closing quote, with escapes, and the text behind it. -/
def basic (taken : List Char) : List Char → Option (String × List Char)
  | [] => none
  | '"' :: rest => some (String.ofList taken.reverse, rest)
  | '\\' :: 'u' :: a :: b :: c :: d :: rest =>
    match codePoint? [a, b, c, d] with
    | some x => basic (x :: taken) rest
    | none => none
  | '\\' :: 'U' :: a :: b :: c :: d :: e :: f :: g :: h :: rest =>
    match codePoint? [a, b, c, d, e, f, g, h] with
    | some x => basic (x :: taken) rest
    | none => none
  | '\\' :: c :: rest =>
    match escape? c with
    | some x => basic (x :: taken) rest
    | none => none
  | c :: rest => if isForbidden c then none else basic (c :: taken) rest

/-- The text up to the closing apostrophe, and the text behind it. -/
def literal (taken : List Char) : List Char → Option (String × List Char)
  | [] => none
  | c :: rest =>
    if c = '\x27' then some (String.ofList taken.reverse, rest)
    else if isForbidden c then none
    else literal (c :: taken) rest

/-- Drops a line end at the front. -/
def skipLineEnd : List Char → List Char
  | '\n' :: rest => rest
  | '\r' :: '\n' :: rest => rest
  | rest => rest

/-- Closes a string of several lines at its run of quotes: the last three close it, and at most two
before them belong to it. -/
def closing? (quote : Char) (taken rest : List Char) : Option (String × List Char) :=
  let run := rest.takeWhile (· == quote)
  let extra := min 2 (run.length - 3)
  if 3 ≤ run.length then
    some (String.ofList (taken.reverse ++ List.replicate extra quote), rest.drop (extra + 3))
  else none

/-- Drops blanks and line ends. -/
def skipSpace : List Char → List Char
  | [] => []
  | '\r' :: '\n' :: rest => skipSpace rest
  | c :: rest => if c = ' ' ∨ c = '\t' ∨ c = '\n' then skipSpace rest else c :: rest

/-- Drops the line end behind a backslash and all blanks and line ends behind it. -/
def skipFold? (s : List Char) : Option (List Char) :=
  match skipBlanks s with
  | '\n' :: rest => some (skipSpace rest)
  | '\r' :: '\n' :: rest => some (skipSpace rest)
  | _ => none

/-- The text of several lines up to three closing quotes, with escapes, and the text behind it. -/
def multiBasic : Nat → List Char → List Char → Option (String × List Char)
  | 0, _, _ => none
  | n + 1, taken, s =>
    match closing? '"' taken s with
    | some r => some r
    | none =>
      match s with
      | [] => none
      | '\\' :: 'u' :: a :: b :: c :: d :: rest =>
        (codePoint? [a, b, c, d]).bind fun x => multiBasic n (x :: taken) rest
      | '\\' :: 'U' :: a :: b :: c :: d :: e :: f :: g :: h :: rest =>
        (codePoint? [a, b, c, d, e, f, g, h]).bind fun x => multiBasic n (x :: taken) rest
      | '\\' :: rest =>
        -- a backslash at the end of a line joins it with the next one
        match skipFold? rest with
        | some rest => multiBasic n taken rest
        | none =>
          match rest with
          | c :: rest => (escape? c).bind fun x => multiBasic n (x :: taken) rest
          | [] => none
      | '\r' :: '\n' :: rest => multiBasic n ('\n' :: taken) rest
      | c :: rest =>
        if c = '\n' ∨ !isForbidden c then multiBasic n (c :: taken) rest else none

/-- The text of several lines up to three closing apostrophes, and the text behind it. -/
def multiLiteral : Nat → List Char → List Char → Option (String × List Char)
  | 0, _, _ => none
  | n + 1, taken, s =>
    match closing? '\x27' taken s with
    | some r => some r
    | none =>
      match s with
      | [] => none
      | '\r' :: '\n' :: rest => multiLiteral n ('\n' :: taken) rest
      | c :: rest =>
        if c = '\n' ∨ !isForbidden c then multiLiteral n (c :: taken) rest else none

/-- A string, its opening quote at the front; `bound` is at least its length. -/
def string? (bound : Nat) (s : List Char) : Option (String × List Char) :=
  match s with
  | '"' :: '"' :: '"' :: rest => multiBasic bound [] (skipLineEnd rest)
  | '"' :: rest => basic [] rest
  | '\x27' :: '\x27' :: '\x27' :: rest => multiLiteral bound [] (skipLineEnd rest)
  | '\x27' :: rest => literal [] rest
  | _ => none

/-! ### Keys -/

/-- A key without dots. -/
def simpleKey? (s : List Char) : Option (String × List Char) :=
  match s with
  | '"' :: rest => basic [] rest
  | '\x27' :: rest => literal [] rest
  | _ =>
    let name := s.takeWhile isKeyChar
    if name.isEmpty then none else some (String.ofList name, s.drop name.length)

/-- The number of parts a key may have, and the number of lists and tables that may be open around
an item. -/
def maxDepth : Nat := 79

/-- A dotted key of at most so many parts: its path, its last part, and the text behind it. -/
def key? : Nat → List Char → Option (List String × String × List Char)
  | 0, _ => none
  | n + 1, s => do
    let (k, rest) ← simpleKey? (skipBlanks s)
    match skipBlanks rest with
    | '.' :: rest =>
      let (path, last, rest) ← key? n rest
      some (k :: path, last, rest)
    | rest => some ([], k, rest)

/-! ### Items -/

/-- A flag, number, date or time, and the text behind it. Between a date and a time there may be a
space. -/
def scalar? (s : List Char) : Option (Item × List Char) :=
  let word := s.takeWhile isScalarChar
  let rest := s.drop word.length
  let pair := match rest with
    | ' ' :: more => word ++ ' ' :: more.takeWhile isScalarChar
    | _ => word
  if word = "true".toList then some (.flag true, rest)
  else if word = "false".toList then some (.flag false, rest)
  else if isScalar pair then some (.scalar (String.ofList pair), s.drop pair.length)
  else if isScalar word then some (.scalar (String.ofList word), rest)
  else none

mutual

/-- An item, and the text behind it; `room` is how many more lists and tables may be opened around
what is in it. -/
def item : Nat → Nat → List Char → Option (Item × List Char)
  | 0, _, _ => none
  | n + 1, room, s =>
    match s, room with
    | '[' :: _, 0 => none
    | '\x7b' :: _, 0 => none
    | '[' :: rest, room + 1 => (items n room (skipVoid false rest)).map fun r => (.list r.1, r.2)
    | '\x7b' :: rest, room + 1 =>
      match skipBlanks rest with
      | '\x7d' :: rest => some (.table .inline [], rest)
      | rest => (entries n room [] rest).map fun r => (.table .inline r.1, r.2)
    | '"' :: _, _ => (string? s.length s).map fun r => (.text r.1, r.2)
    | '\x27' :: _, _ => (string? s.length s).map fun r => (.text r.1, r.2)
    | _, _ => scalar? s

/-- The items of a list up to its closing bracket, and the text behind it. -/
def items : Nat → Nat → List Char → Option (List Item × List Char)
  | 0, _, _ => none
  | n + 1, room, s =>
    match s with
    | ']' :: rest => some ([], rest)
    | _ =>
      match item n room s with
      | none => none
      | some (i, rest) =>
        match skipVoid false rest with
        -- behind a comma the list may end as well
        | ',' :: rest => (items n room (skipVoid false rest)).map fun r => (i :: r.1, r.2)
        | ']' :: rest => some ([i], rest)
        | _ => none

/-- The entries of a table in one line up to its closing brace, and the text behind it. -/
def entries : Nat → Nat → Entries → List Char → Option (Entries × List Char)
  | 0, _, _, _ => none
  | n + 1, room, es, s =>
    match key? maxDepth s with
    | some (path, k, '=' :: rest) =>
      match item n room (skipBlanks rest) with
      | none => none
      | some (i, rest) =>
        match assignIn path k i .inline es, skipBlanks rest with
        -- behind a comma another entry must follow
        | some es, ',' :: rest => entries n room es rest
        | some es, '\x7d' :: rest => some (es, rest)
        | _, _ => none
    | _ => none

end

/-! ### Documents -/

/-- A statement of a document. -/
inductive Statement where
  /-- The header of a table. -/
  | table (parents : List String) (key : String)
  /-- The header of one of several tables under a key. -/
  | element (parents : List String) (key : String)
  /-- An item under a dotted key. -/
  | entry (path : List String) (key : String) (item : Item)

/-- One statement up to the end of its line, and the text behind it. -/
def statement? (s : List Char) : Option (Statement × List Char) :=
  match s with
  | '[' :: '[' :: rest => do
    let (path, k, rest) ← key? maxDepth rest
    match rest with
    | ']' :: ']' :: rest => (lineEnd? rest).map fun r => (.element path k, r)
    | _ => none
  | '[' :: rest => do
    let (path, k, rest) ← key? maxDepth rest
    match rest with
    | ']' :: rest => (lineEnd? rest).map fun r => (.table path k, r)
    | _ => none
  | _ => do
    let (path, k, rest) ← key? maxDepth s
    match rest with
    | '=' :: rest =>
      let (i, rest) ← item rest.length maxDepth (skipBlanks rest)
      (lineEnd? rest).map fun r => (.entry path k i, r)
    | _ => none

/-- The statements of a text; `bound` is more than their number. -/
def statements : Nat → List Char → Option (List Statement)
  | 0, _ => none
  | n + 1, s =>
    match skipVoid false s with
    | [] => some []
    | s => do
      let (st, rest) ← statement? s
      (statements n rest).map (st :: ·)

/-- Carries out statements below the header that is open. -/
def build (header : List String) : List Statement → Entries → Option Entries
  | [], es => some es
  | .table parents k :: rest, es =>
    (openTable parents k es).bind (build (parents ++ [k]) rest)
  | .element parents k :: rest, es =>
    (openElement parents k es).bind (build (parents ++ [k]) rest)
  | .entry path k i :: rest, es => (assign header path k i es).bind (build header rest)

/-- A text without the mark of its byte order. -/
def withoutMark : List Char → List Char
  | '\uFEFF' :: rest => rest
  | rest => rest

/-- **The document of a text,** if it is one. -/
def read? (text : String) : Option Entries := do
  let s := withoutMark text.toList
  let sts ← statements (s.length + 1) s
  build [] sts []

end Coffer.Toml
