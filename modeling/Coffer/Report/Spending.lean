/-
**What was spent in a period.**

Reports look at the debits of a period in the accounts that are looked at.  What was spent is the
sum of their sizes, and the credit offsets recorded against them come off it.  Offsets are taken as
they are, also where they exceed their debit.  Sums run in the order of the transactions.

Main definitions:

* `Coffer.Ledger` — what reports are made from;
* `Coffer.Ledger.spending` — sums over the debits of a period;
* `Coffer.Balance` — an amount set against what was spent.
-/

import Coffer.Ledger.Catalog

set_option autoImplicit false

namespace Coffer

/-- The sum of the offsets against each debit. -/
def offsetsByDebit (offsets : List CreditOffset) : Index Float :=
  offsets.foldl (fun m o => m.put o.debit ((m.get? o.debit).getD 0 + o.amount)) Index.empty

/-- What reports are made from. -/
structure Ledger where
  transactions : List Transaction
  tagMap : TagMap
  catalog : Catalog
  offsetsByDebit : Index Float
  scope : AccountScope

/-- Sums over debits. -/
structure Spending where
  spent : Float
  offsets : Float

/-- The sums over a list of debits, in its order. -/
def Spending.ofDebits (offsetsByDebit : Index Float) (debits : List Transaction) : Spending where
  spent := debits.foldl (fun sum t => sum + t.amount.abs) 0
  offsets := debits.foldl (fun sum t =>
    match offsetsByDebit.get? t.id with
    | some x => sum + x
    | none => sum) 0

namespace Ledger

/-- A transaction with its names and tags. -/
def view (l : Ledger) (t : Transaction) : View := l.catalog.view t (l.tagMap.tagsOf t.id)

/-- Whether a transaction is a debit of a period in the accounts that are looked at. -/
def countsIn (l : Ledger) (p : Period) (t : Transaction) : Bool :=
  t.isDebit && p.holds t.date && l.scope.holds t

/-- **The sums over the selected debits of a period.** -/
def spending (l : Ledger) (p : Period) (select : Transaction → Bool) : Spending :=
  Spending.ofDebits l.offsetsByDebit
    (l.transactions.filter fun t => l.countsIn p t && select t)

end Ledger

/-- An amount set against what was spent. -/
structure Balance where
  /-- The amount that counts: the override if there is one, else the base amount. -/
  budgeted : Float
  /-- Whether there is an override. -/
  overridden : Bool
  spent : Float
  offsets : Float

namespace Balance

/-- Sets a base amount or its override against what was spent. -/
def of (base : Float) (override : Option Float) (s : Spending) : Balance where
  budgeted := override.getD base
  overridden := override.isSome
  spent := s.spent
  offsets := s.offsets

/-- What was spent without what was made up for. -/
def netSpent (b : Balance) : Float := b.spent - b.offsets

/-- What is left of the amount. -/
def remaining (b : Balance) : Float := b.budgeted - b.netSpent

/-- Whether more was spent than the amount. -/
def isOver (b : Balance) : Bool := decide (b.remaining < 0)

end Balance

end Coffer
