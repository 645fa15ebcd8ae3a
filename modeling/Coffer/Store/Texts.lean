/-
**Stored texts put in place by hand.**

Dates, period lengths and tag sources are stored as texts, and somebody who opens the file with
another program can write anything there.  These functions do that, and say how many records they
touched.

Main definitions: `Coffer.Store.putDateText`, `Coffer.Store.putPeriodText`,
`Coffer.Store.putSourceText`.
-/

import Coffer.Store.Tables

set_option autoImplicit false

namespace Coffer.Store

/-- Writes the text of the date of a transaction. -/
def putDateText (i : Int) (text : String) (s : Store) : Nat × Store :=
  (s.transactions.countP (·.id == i),
    { s with transactions := s.transactions.map fun t =>
        if t.id = i then { t with date := text } else t })

/-- Writes the text of the period length of a target. -/
def putPeriodText (i : Int) (text : String) (s : Store) : Nat × Store :=
  (s.targets.countP (·.id == i),
    { s with targets := s.targets.map fun g =>
        if g.id = i then { g with period := text } else g })

/-- Writes the text of the source of all tags of a transaction. -/
def putSourceText (i : Int) (text : String) (s : Store) : Nat × Store :=
  (s.links.countP (·.transaction == i),
    { s with links := s.links.map fun l =>
      if l.transaction = i then { l with source := text } else l })

end Coffer.Store
