/-
**Filter texts.**

The same text is read in three ways.  Reading it *strictly* reports what is wrong with it.  Reading
it for a *search* never fails: a text that cannot be read strictly is itself searched for.  Reading
it for a rule or target that is *bound* to it is strict and wants a filter, since no filter would
select everything.

Main definitions: `Coffer.Filter.parse`, `Coffer.Filter.parseSearch`, `Coffer.Filter.parseBound`,
`Coffer.Filter.ofSaved`.
-/

import Coffer.Filter.Canonical
import Coffer.Filter.Combine
import Coffer.Filter.Matching
import Coffer.Filter.Reader

set_option autoImplicit false

namespace Coffer.Filter

/-- **Reads a filter text strictly.** A text of blanks is no filter. -/
def parse (text : String) : Except FilterError (Option Filter) := do
  let tokens ← Token.scan text.toList
  let tree ← ofTokens tokens
  return tree.map reclassify

/-- The filter that searches for a whole text; a text of blanks is no filter. -/
def wholeText (text : String) : Option Filter :=
  match Text.trimChars text.toList with
  | [] => none
  | s => some (reclassify (ofText (String.ofList s)))

/-- **Reads a filter text for a search,** which never fails. -/
def parseSearch (text : String) : Option Filter :=
  match parse text with
  | .ok tree => tree
  | .error _ => wholeText text

/-- **Reads a filter text that something is bound to.** -/
def parseBound (text : String) : Except FilterError Filter :=
  match parse text with
  | .ok (some f) => .ok f
  | .ok none => .error .emptyExpression
  | .error e => .error e

/-- **The filter of the saved filter with an id,** or what it means that it is missing or that its
text cannot be read. -/
def ofSaved {ε : Type} (savedFilters : Index SavedFilter) (missing : ε)
    (unreadable : SavedFilter → FilterError → ε) (i : Int) : Except ε Filter :=
  match savedFilters.get? i with
  | some saved => (parseBound saved.expression).mapError (unreadable saved)
  | none => .error missing

end Coffer.Filter
