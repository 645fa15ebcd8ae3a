/-
**The tokens of a filter text.**

A filter text is a row of words, quoted texts, `name:value` terms, parentheses and the word `OR`.
It is read character by character: the *mode* is what the reader is in the middle of, and a
character ends it, goes into it or starts something new.  Nothing can go wrong before the end of the
text, and there only an open quote.

Main definitions:

* `Coffer.Token` — the tokens;
* `Coffer.Token.Mode`, `Coffer.Token.step`, `Coffer.Token.finish` — the reader;
* `Coffer.Token.scan` — the tokens of a text.

Main results: `Coffer.Token.scanFrom_append` — reading one text after another.
-/

import Coffer.Filter.Error
import Coffer.Text.Blank

set_option autoImplicit false

namespace Coffer

/-- A token of a filter text. -/
inductive Token where
  /-- A word without quotes. -/
  | word (s : String)
  /-- A quoted text, without its quotes and escapes. -/
  | quoted (s : String)
  /-- A field and its value, which may have been quoted and then is taken as it stands. -/
  | field (name value : String) (isQuoted : Bool)
  /-- The word `OR`. -/
  | or
  | leftParen
  | rightParen
  deriving DecidableEq, Repr

namespace Token

/-- What the reader is in the middle of; characters taken in so far are kept in reverse. -/
inductive Mode where
  /-- Between tokens. -/
  | gap
  /-- In a word. -/
  | word (taken : List Char)
  /-- In a quoted text, the value of a field if there is a name. -/
  | quoted (name : Option String) (taken : List Char)
  /-- In a quoted text, behind a backslash. -/
  | escaped (name : Option String) (taken : List Char)
  deriving DecidableEq, Repr

/-! ### Words -/

/-- Whether a character can be in a word. -/
def isWordChar (c : Char) : Bool :=
  !Text.isBlank c && c != '(' && c != ')' && c != '"'

/-- Whether a text can name a field: ASCII letters and underscores. -/
def isFieldName (s : List Char) : Bool := !s.isEmpty && s.all fun c => c.isAlpha || c == '_'

/-- The part of a word before its first colon and the part behind it. -/
def splitColon : List Char → Option (List Char × List Char)
  | [] => none
  | c :: rest =>
    if c = ':' then some ([], rest)
    else (splitColon rest).map fun p => (c :: p.1, p.2)

/-- Whether a word is `OR`, in any letter case. -/
def isOr (s : List Char) : Bool := s.map Char.toLower == ['o', 'r']

/-- The name and value of a word that is a field term. -/
def fieldParts? (s : List Char) : Option (List Char × List Char) :=
  match splitColon s with
  | some (name, value) => if isFieldName name then some (name, value) else none
  | none => none

/-- The token of a word. -/
def ofWord (s : List Char) : Token :=
  match fieldParts? s with
  | some (name, value) => .field (String.ofList name) (String.ofList value) false
  | none => if isOr s then .or else .word (String.ofList s)

/-- The name of the field whose quoted value starts where this word ends, if it does. -/
def openField? (s : List Char) : Option String :=
  match fieldParts? s with
  | some (name, []) => some (String.ofList name)
  | _ => none

/-! ### The reader -/

/-- The token of a quoted text. -/
def ofQuoted (name : Option String) (s : List Char) : Token :=
  match name with
  | some n => .field n (String.ofList s) true
  | none => .quoted (String.ofList s)

/-- What a character starts between tokens. -/
def start (c : Char) : Mode × List Token :=
  if Text.isBlank c then (.gap, [])
  else if c = '(' then (.gap, [.leftParen])
  else if c = ')' then (.gap, [.rightParen])
  else if c = '"' then (.quoted none [], [])
  else (.word [c], [])

/-- What a character does: the mode after it and the tokens that it completes. -/
def step : Mode → Char → Mode × List Token
  | .gap, c => start c
  | .word taken, c =>
    if isWordChar c then (.word (c :: taken), [])
    else
      -- a quote right behind `name:` opens the value of that field
      match decide (c = '"'), openField? taken.reverse with
      | true, some name => (.quoted (some name) [], [])
      | _, _ => ((start c).1, ofWord taken.reverse :: (start c).2)
  | .quoted name taken, c =>
    if c = '"' then (.gap, [ofQuoted name taken.reverse])
    else if c = '\\' then (.escaped name taken, [])
    else (.quoted name (c :: taken), [])
  | .escaped name taken, c =>
    if c = '"' ∨ c = '\\' then (.quoted name (c :: taken), [])
    -- in front of any other character a backslash stands for itself
    else (.quoted name (c :: '\\' :: taken), [])

/-- What the end of the text completes. -/
def finish : Mode → Except FilterError (List Token)
  | .gap => .ok []
  | .word taken => .ok [ofWord taken.reverse]
  | .quoted _ _ => .error .unterminatedQuote
  | .escaped _ _ => .error .unterminatedQuote

/-- The mode after a text and the tokens completed in it. -/
def run (m : Mode) : List Char → Mode × List Token
  | [] => (m, [])
  | c :: rest =>
    let (m', out) := step m c
    let (m'', more) := run m' rest
    (m'', out ++ more)

/-- The tokens of the rest of a text, read on from a mode. -/
def scanFrom (m : Mode) (s : List Char) : Except FilterError (List Token) :=
  (finish (run m s).1).map ((run m s).2 ++ ·)

/-- **The tokens of a text.** -/
def scan (s : List Char) : Except FilterError (List Token) := scanFrom .gap s

@[simp] theorem run_nil (m : Mode) : run m [] = (m, []) := rfl

@[simp] theorem run_cons (m : Mode) (c : Char) (rest : List Char) :
    run m (c :: rest) =
      ((run (step m c).1 rest).1, (step m c).2 ++ (run (step m c).1 rest).2) := rfl

/-- Running over one text after another. -/
theorem run_append (m : Mode) (a b : List Char) :
    run m (a ++ b) = ((run (run m a).1 b).1, (run m a).2 ++ (run (run m a).1 b).2) := by
  induction a generalizing m with
  | nil => simp
  | cons c rest ih => simp [ih, List.append_assoc]

/-- Reading one text after another. -/
theorem scanFrom_append (m : Mode) (a b : List Char) :
    scanFrom m (a ++ b) = (scanFrom (run m a).1 b).map ((run m a).2 ++ ·) := by
  unfold scanFrom
  rw [run_append]
  cases finish (run (run m a).1 b).1 <;> simp [Except.map, List.append_assoc]

end Token

end Coffer
