/-
**Dates in writing.**

A date is written as year, month and day.  A year of four digits stands alone; any other year has a
sign and at least four digits.

Reading is more generous than writing: blanks may stand before each number, months and days may lack
their leading zero, a year without a sign may have fewer than four digits and a signed year any
number of them.

Main definitions:

* `Coffer.Date.iso`, `Coffer.Date.yearText`, `Coffer.Date.monthText` — writing;
* `Coffer.DateLayout.read` — reading, with the cause of a failure;
* `Coffer.DateLayout.iso`, `Coffer.DateLayout.slashed` — the two layouts in use.
-/

import Coffer.Calendar.Date
import Coffer.Number.Written
import Coffer.Text.Blank

set_option autoImplicit false

namespace Coffer

namespace Date

open Binary64 (padded)

/-! ### Writing -/

/-- A year: four digits, or a sign and at least four digits. -/
def yearChars (year : Int) : List Char :=
  if 0 ≤ year ∧ year ≤ 9999 then padded 4 year.toNat
  else (if year < 0 then '-' else '+') :: padded 4 year.natAbs

/-- The text of the year of a date. -/
def yearText (d : Date) : List Char := yearChars d.year

/-- The text of the year and month of a date. -/
def monthText (d : Date) : List Char := yearText d ++ '-' :: padded 2 d.month

/-- The text of a date. -/
def isoChars (d : Date) : List Char := monthText d ++ '-' :: padded 2 d.day

/-- **The text of a date:** year, month and day. -/
def iso (d : Date) : String := String.ofList (isoChars d)

end Date

/-! ### Reading -/

/-- Why a text is not a date of a layout. -/
inductive DateError where
  /-- A number or a separator was expected and something else found. -/
  | invalid
  /-- A number is beyond what its place allows, or the calendar has no such day. -/
  | outOfRange
  /-- The text ends too early. -/
  | tooShort
  /-- The text goes on behind the date. -/
  | trailing
  deriving DecidableEq, Repr

/-- The wording of a date error. -/
def DateError.message : DateError → String
  | .invalid => "input contains invalid characters"
  | .outOfRange => "input is out of range"
  | .tooShort => "premature end of input"
  | .trailing => "trailing input"

/-- A number in a date. -/
inductive DatePart where
  | year
  | month
  | day
  deriving DecidableEq, Repr

/-- The order of the three numbers and the character between them. -/
structure DateLayout where
  parts : List DatePart
  separator : Char

/-- The numbers read so far. -/
structure DateFields where
  year : Int
  month : Nat
  day : Nat

namespace DateLayout

/-- Reads the digits at the front, at most `limit` of them if there is a limit. -/
def digits (limit : Option Nat) (s : List Char) : Except DateError (Nat × List Char) :=
  let run := s.takeWhile Char.isDigit
  let ds := match limit with
    | some n => run.take n
    | none => run
  match s, ds with
  | [], _ => .error .tooShort
  | _ :: _, [] => .error .invalid
  | _ :: _, _ :: _ => .ok (Nat.ofDigitChars 10 ds 0, s.drop ds.length)

/-- Reads a year: up to four digits, or a sign and any number of them. -/
def year (s : List Char) : Except DateError (Int × List Char) :=
  match s with
  | '-' :: rest => (digits none rest).map fun r => (-(r.1 : Int), r.2)
  | '+' :: rest => (digits none rest).map fun r => ((r.1 : Int), r.2)
  | _ => (digits (some 4) s).map fun r => ((r.1 : Int), r.2)

/-- Reads one number of a date and takes it in, if its place allows it. -/
def part (p : DatePart) (fields : DateFields) (text : List Char) :
    Except DateError (DateFields × List Char) :=
  let s := text.dropWhile Text.isBlank
  match p with
  | .year => (year s).bind fun r =>
      if -2 ^ 31 ≤ r.1 ∧ r.1 < 2 ^ 31 then .ok ({ fields with year := r.1 }, r.2)
      else .error .outOfRange
  | .month => (digits (some 2) s).bind fun r =>
      if 1 ≤ r.1 ∧ r.1 ≤ 12 then .ok ({ fields with month := r.1 }, r.2)
      else .error .outOfRange
  -- whether the month has such a day is asked when all three numbers are there
  | .day => (digits (some 2) s).bind fun r =>
      if 1 ≤ r.1 ∧ r.1 ≤ 31 then .ok ({ fields with day := r.1 }, r.2)
      else .error .outOfRange

/-- Reads a separator. -/
def separatorAt (c : Char) : List Char → Except DateError (List Char)
  | [] => .error .tooShort
  | d :: rest => if d = c then .ok rest else .error .invalid

/-- Reads numbers with separators between them. -/
def fields (separator : Char) : List DatePart → DateFields → List Char →
    Except DateError (DateFields × List Char)
  | [], acc, s => .ok (acc, s)
  | [p], acc, s => part p acc s
  | p :: q :: ps, acc, s => do
      let (acc, s) ← part p acc s
      let s ← separatorAt separator s
      fields separator (q :: ps) acc s

/-- **Reads a date in a layout.** -/
def read (layout : DateLayout) (text : List Char) : Except DateError Date := do
  let (f, rest) ← fields layout.separator layout.parts ⟨0, 0, 0⟩ text
  match rest with
  | _ :: _ => .error .trailing
  | [] =>
    match Date.of? f.year f.month f.day with
    | some d => .ok d
    | none => .error .outOfRange

/-- Year, month and day between hyphens. -/
def iso : DateLayout := ⟨[.year, .month, .day], '-'⟩

/-- Month, day and year between slashes. -/
def slashed : DateLayout := ⟨[.month, .day, .year], '/'⟩

end DateLayout

end Coffer
