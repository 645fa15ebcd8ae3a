/-
**The canonical text of a filter.**

A filter is written with as few quotes and parentheses as reading it back allows.  A text is quoted
if it would be read as something else, and a part is put in parentheses if it asks for any of its
own parts.

Main definitions: `Coffer.Filter.quoteChars`, `Coffer.Predicate.chars`, `Coffer.Filter.chars`,
`Coffer.Filter.canonical`.

Main results: `Coffer.Filter.joinedChars_eq` — parts are written one by one, with a separator.
-/

import Coffer.Filter.Basic
import Coffer.Filter.Token
import Coffer.Number.Written

set_option autoImplicit false

namespace Coffer

namespace Filter

/-! ### Quoting -/

/-- A text in quotes, with a backslash before quotes and backslashes. -/
def quoteChars (s : List Char) : List Char :=
  '"' :: (s.flatMap fun c => if c = '"' ∨ c = '\\' then ['\\', c] else [c]) ++ ['"']

/-- Whether a character makes quotes necessary wherever it stands. -/
def isReserved (c : Char) : Bool :=
  Text.isBlank c || c == '"' || c == '(' || c == ')' || c == '\\'

/-- Whether a text needs quotes wherever it stands. -/
def needsQuotes (s : List Char) : Bool := s.isEmpty || s.any isReserved || Token.isOr s

/-- A free text, in quotes if it needs them or could be read as a field term. -/
def textChars (s : List Char) : List Char :=
  if needsQuotes s || s.contains ':' then quoteChars s else s

/-- Whether a text starts with a comparison sign. -/
def startsWithSign : List Char → Bool
  | c :: _ => c == '>' || c == '<'
  | [] => false

/-- The value of a text field, in quotes if it needs them or could be read as a comparison. -/
def valueChars (s : List Char) : List Char :=
  if needsQuotes s || startsWithSign s then quoteChars s else s

end Filter

/-! ### Predicates -/

/-- The text of a value. -/
def Value.chars : Value → List Char
  | .text s => Filter.valueChars s.toList
  | .date span => span.chars
  | .amount x => Binary64.plainChars x
  | .dateRange low high => low.chars ++ '.' :: '.' :: high.chars
  | .amountRange low high => Binary64.plainChars low ++ '.' :: '.' :: Binary64.plainChars high

/-- The text of a predicate. -/
def Predicate.chars (p : Predicate) : List Char :=
  p.field.name.toList ++ ':' :: (p.comparison.sign.toList ++ p.value.chars)

namespace Filter

/-! ### Filters -/

/-- Puts the text of a part in parentheses if the part asks for any of its own parts. -/
def groupChars (part : Filter) (text : List Char) : List Char :=
  match part with
  | .any _ => '(' :: text ++ [')']
  | _ => text

mutual

/-- The characters of the canonical text. -/
def chars : Filter → List Char
  | .field p => p.chars
  | .all parts => joinedChars [' '] parts
  | .any parts => joinedChars [' ', 'O', 'R', ' '] parts
  | .text s _ => textChars s.toList

/-- The texts of parts with a separator between them. -/
def joinedChars (separator : List Char) : List Filter → List Char
  | [] => []
  | [f] => groupChars f (chars f)
  | f :: g :: rest => groupChars f (chars f) ++ separator ++ joinedChars separator (g :: rest)

end

/-- **The canonical text of a filter.** -/
def canonical (f : Filter) : String := String.ofList f.chars

/-- Parts are written one by one, with a separator between them. -/
theorem joinedChars_eq (separator : List Char) (fs : List Filter) :
    joinedChars separator fs =
      ((fs.map fun f => groupChars f f.chars).intersperse separator).flatten := by
  induction fs with
  | nil => rfl
  | cons f rest ih =>
      cases rest with
      | nil => simp [joinedChars]
      | cons g rest => simp [joinedChars, ih]

end Filter

end Coffer
