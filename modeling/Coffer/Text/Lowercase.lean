/-
**Full lower case.**

Letters are put in lower case one by one, with two exceptions: `İ` becomes two characters, and a
capital sigma becomes `ς` at the end of a word and `σ` elsewhere.  It ends a word if, passing over
characters that do not count as neighbours, a letter with case comes before it and none after it.

Main definitions: `Coffer.Text.lowercaseChars`, `Coffer.Text.lowercase`, `Coffer.Text.occurs`.

Main results: `Coffer.Text.occurs_eq_true_iff` — the search finds exactly the infixes.
-/

import Coffer.Text.CaseTable

set_option autoImplicit false

namespace Coffer.Text

/-! ### Letters -/

/-- The lower case of a single letter. -/
def lowerLetter (c : Char) : Char :=
  if c.toNat < 0x80 then c.toLower
  else match lowerRuns.find? (·.holds c.toNat) with
    | some run => Char.ofNat (c.toNat + run.shift).toNat
    | none => c

/-- Whether a character is passed over in the search for a neighbour. -/
def isIgnorable (c : Char) : Bool := inRuns ignorableRuns c.toNat

/-- Whether a character is a letter with case. -/
def isCased (c : Char) : Bool := inRuns casedRuns c.toNat

/-- Whether the nearest character that counts is a letter with case. -/
def nextIsCased (s : List Char) : Bool :=
  match s.dropWhile isIgnorable with
  | [] => false
  | c :: _ => isCased c

/-! ### Texts -/

/-- The lower case of `c` between the reversed text `before` and the text `after`. -/
def lowerBetween (before : List Char) (c : Char) (after : List Char) : List Char :=
  if c = 'İ' then ['i', '\u0307']
  else if c = 'Σ' then
    if nextIsCased before && !nextIsCased after then ['ς'] else ['σ']
  else [lowerLetter c]

/-- Lower case of the rest of a text whose beginning is given in reverse. -/
def lowercaseAfter (before : List Char) : List Char → List Char
  | [] => []
  | c :: rest => lowerBetween before c rest ++ lowercaseAfter (c :: before) rest

/-- The lower case of a text. -/
def lowercaseChars (s : List Char) : List Char := lowercaseAfter [] s

/-- **The lower case of a text.** -/
def lowercase (s : String) : String := String.ofList (lowercaseChars s.toList)

/-- Whether two texts have the same lower case. -/
def sameLetters (a b : String) : Bool := lowercaseChars a.toList == lowercaseChars b.toList

/-! ### Search -/

/-- Whether `needle` occurs in a text. -/
def occurs (needle : List Char) : List Char → Bool
  | [] => needle.isEmpty
  | c :: rest => needle.isPrefixOf (c :: rest) || occurs needle rest

/-- The search finds exactly the infixes. -/
theorem occurs_eq_true_iff {needle s : List Char} : occurs needle s = true ↔ needle <:+: s := by
  induction s with
  | nil => simp [occurs]
  | cons c rest ih =>
      rw [occurs, Bool.or_eq_true, List.isPrefixOf_iff_prefix, ih, List.infix_cons_iff]

/-- Whether the lower case of a text holds a needle that is in lower case already. -/
def holdsLower (needle : List Char) (s : String) : Bool := occurs needle (lowercaseChars s.toList)

end Coffer.Text
