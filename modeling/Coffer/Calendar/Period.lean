/-
**Budget periods: months, quarters and years.**

A period is a month, quarter or year of the calendar.  It has a *key*, the text under which amounts
are recorded for it: `2024-03`, `2024-Q1` or `2024`.  Its window runs from its first day up to, and
without, the first day after it.

Main definitions:

* `Coffer.Period.containing` — the period of a kind in which a date lies;
* `Coffer.Period.start`, `Coffer.Period.stop`, `Coffer.Period.holds` — the window;
* `Coffer.Period.key`, `Coffer.Period.ofKey`, `Coffer.Period.ofMonthKey` — writing and reading keys.
-/

import Coffer.Calendar.DateText
import Coffer.Number.Reading
import Coffer.Text.Lowercase

set_option autoImplicit false

namespace Coffer

/-- The length of a period. -/
inductive PeriodKind where
  | monthly
  | quarterly
  | annual
  deriving DecidableEq, Repr

namespace PeriodKind

/-- The name of a period length. -/
def name : PeriodKind → String
  | .monthly => "monthly"
  | .quarterly => "quarterly"
  | .annual => "annual"

/-- Reads the name of a period length, in any letter case. -/
def ofName? (s : String) : Option PeriodKind :=
  match Text.lowercase s with
  | "monthly" | "month" => some .monthly
  | "quarterly" | "quarter" => some .quarterly
  | "annual" | "yearly" | "year" => some .annual
  | _ => none

/-- The complaint about a word that names no period length. -/
def unknown (s : String) : String := "Unknown period type: " ++ s

/-- How many months a period has. -/
def months : PeriodKind → Nat
  | .monthly => 1
  | .quarterly => 3
  | .annual => 12

end PeriodKind

/-- A period of the calendar: its kind, its year and its first month. -/
structure Period where
  kind : PeriodKind
  year : Int
  firstMonth : Nat
  deriving DecidableEq

/-- Why a text is not the key of a period. -/
inductive PeriodError where
  /-- The text is no key at all. -/
  | notAKey (text : String)
  /-- The text is the key of a period that is not a month. -/
  | notAMonth (text : String)
  deriving DecidableEq, Repr

/-- The wording of a key error. -/
def PeriodError.message : PeriodError → String
  | .notAKey s => "Invalid period key: '" ++ s ++ "'"
  | .notAMonth s => "Invalid month '" ++ s ++ "' (expected YYYY-MM)"

namespace Period

/-! ### Windows -/

/-- The first month of the period of a kind in which a month lies. -/
def firstMonthOf (kind : PeriodKind) (month : Nat) : Nat :=
  (month - 1) / kind.months * kind.months + 1

/-- **The period of a kind in which a date lies.** -/
def containing (kind : PeriodKind) (d : Date) : Period :=
  ⟨kind, d.year, firstMonthOf kind d.month⟩

/-- The first day of the period. -/
def start (p : Period) : Date := Date.firstOfMonth p.year p.firstMonth

/-- The first day after the period. -/
def stop (p : Period) : Date :=
  let next := p.firstMonth + p.kind.months
  -- months count from one, so the thirteenth is the first of the next year
  if 12 < next then Date.firstOfMonth (p.year + 1) (next - 12)
  else Date.firstOfMonth p.year next

/-- Whether a date lies in the window of the period. -/
def holds (p : Period) (d : Date) : Bool := decide (p.start ≤ d) && decide (d < p.stop)

theorem holds_eq_true_iff {p : Period} {d : Date} :
    p.holds d = true ↔ p.start ≤ d ∧ d < p.stop := by
  simp [holds]

/-! ### Keys -/

/-- The year of a key: at least four characters, counting a minus sign. -/
def keyYear (year : Int) : List Char :=
  if 0 ≤ year then Binary64.padded 4 year.toNat else '-' :: Binary64.padded 3 year.natAbs

/-- The number of a quarter by its first month. -/
def quarter (firstMonth : Nat) : Nat := (firstMonth - 1) / 3 + 1

/-- The characters of the key of a period. -/
def keyChars (p : Period) : List Char :=
  match p.kind with
  | .monthly => keyYear p.year ++ '-' :: Binary64.padded 2 p.firstMonth
  | .quarterly => keyYear p.year ++ '-' :: 'Q' :: Nat.toDigits 10 (quarter p.firstMonth)
  | .annual => keyYear p.year

/-- **The key of a period.** -/
def key (p : Period) : String := String.ofList p.keyChars

/-- Reads what follows the year of a key: nothing, `-Qn` or `-MM`. -/
def afterYear? (year : Nat) : List Char → Option Period
  | [] => some ⟨.annual, year, 1⟩
  | '-' :: rest =>
    match rest with
    | 'Q' :: ds | 'q' :: ds =>
      match Reading.natural? ds with
      -- the number of a quarter may have zeros in front, the number of a month has two digits
      | some n => if 1 ≤ n ∧ n ≤ 4 then some ⟨.quarterly, year, (n - 1) * 3 + 1⟩ else none
      | none => none
    | ds =>
      match Reading.natural? ds with
      | some n =>
        if ds.length = 2 ∧ 1 ≤ n ∧ n ≤ 12 then some ⟨.monthly, year, n⟩ else none
      | none => none
  | _ :: _ => none

/-- Reads a key without blanks around it. -/
def ofKeyChars? (s : List Char) : Option Period :=
  let year := s.takeWhile (· != '-')
  match Reading.natural? year with
  | some n => if year.length = 4 then afterYear? n (s.drop year.length) else none
  | none => none

/-- **Reads a key,** with blanks around it if need be. -/
def ofKey (s : String) : Except PeriodError Period :=
  match ofKeyChars? (Text.trimChars s.toList) with
  | some p => .ok p
  | none => .error (.notAKey s)

/-- Reads the key of a month. -/
def ofMonthKey (s : String) : Except PeriodError Period :=
  match ofKey s with
  | .ok p => if p.kind = .monthly then .ok p else .error (.notAMonth s)
  | .error e => .error e

end Period

end Coffer
