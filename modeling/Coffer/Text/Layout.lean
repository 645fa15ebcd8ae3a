/-
**Texts in columns.**

Widths are counted in characters, whatever these look like on a screen.

Main definitions: `Coffer.Text.padRight`, `Coffer.Text.padLeft`, `Coffer.Text.shorten`.
-/

set_option autoImplicit false

namespace Coffer.Text

/-- The blanks that a text lacks of a width. -/
def lacking (width : Nat) (s : String) : String :=
  String.ofList (List.replicate (width - s.length) ' ')

/-- A text at the left of a column. -/
def padRight (width : Nat) (s : String) : String := s ++ lacking width s

/-- A text at the right of a column. -/
def padLeft (width : Nat) (s : String) : String := lacking width s ++ s

/-- A text of at most `width` characters: a longer one is cut, and ends in three points. -/
def shorten (width : Nat) (s : String) : String :=
  if s.length ≤ width then s else String.ofList (s.toList.take (width - 3)) ++ "..."

end Coffer.Text
