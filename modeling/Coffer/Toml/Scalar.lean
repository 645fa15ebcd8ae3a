/-
**Numbers, dates and times in TOML.**

What is written without quotes and is no flag must be an integer of 64 bits, a number with a
fraction or an exponent, a date, a time, or a date with a time.  Dates and times are those of the
calendar and the clock; a minute may have a leap second.

Main definitions:

* `Coffer.Toml.isInteger`, `Coffer.Toml.isReal` — the numbers;
* `Coffer.Toml.isDate`, `Coffer.Toml.isTime`, `Coffer.Toml.isMoment` — the dates and times;
* `Coffer.Toml.isScalar` — all of them.
-/

import Coffer.Calendar.Date
import Coffer.Number.Reading

set_option autoImplicit false

namespace Coffer.Toml

/-! ### Integers -/

/-- The digits of a text, in which single underscores may stand between two digits. -/
def digits? (isDigit : Char → Bool) : List Char → Option (List Char)
  | [] => none
  | [c] => if isDigit c then some [c] else none
  | c :: '_' :: rest => if isDigit c then (digits? isDigit rest).map (c :: ·) else none
  | c :: rest => if isDigit c then (digits? isDigit rest).map (c :: ·) else none

/-- Decimal digits without a zero in front, unless it is the only one. -/
def whole? (s : List Char) : Option (List Char) :=
  (digits? Char.isDigit s).filter fun ds => ds.length == 1 || ds.head? != some '0'

/-- Whether an integer is one of 64 bits. -/
def isInt64 (n : Int) : Bool := decide (-2 ^ 63 ≤ n) && decide (n < 2 ^ 63)

/-- Whether a text is a decimal integer, with a sign or without. -/
def isDecimal (s : List Char) : Bool :=
  let (negative, rest) := Reading.sign s
  (whole? rest).any fun ds => isInt64 (Reading.withSign negative (Nat.ofDigitChars 10 ds 0))

/-- The base that a letter behind a zero stands for. -/
def base? : Char → Option Nat
  | 'x' => some 16
  | 'o' => some 8
  | 'b' => some 2
  | _ => none

/-- Whether a character is a digit in a base of at most sixteen. -/
def isDigitIn (base : Nat) (c : Char) : Bool := (Reading.hexDigit? c).any fun d => decide (d < base)

/-- Whether a text is an integer in another base, which has no sign. -/
def isBased : List Char → Bool
  | '0' :: letter :: rest =>
    match base? letter with
    | none => false
    | some base =>
      (digits? (isDigitIn base) rest).any fun ds => (Reading.inBase? base ds).any fun n => isInt64 n
  | _ => false

/-- **Whether a text is an integer.** -/
def isInteger (s : List Char) : Bool := isDecimal s || isBased s

/-! ### Numbers with a fraction or an exponent -/

/-- The digits behind the point at the front of a text, which may be missing. -/
def fraction? : List Char → Option (List Char)
  | [] => some []
  | _ :: digits => digits? Char.isDigit digits

/-- The exponent behind the letter at the front of a text, which may be missing. -/
def exponent? : List Char → Option Int
  | [] => some 0
  | _ :: tail =>
    let (negative, rest) := Reading.sign tail
    (digits? Char.isDigit rest).map fun ds => Reading.withSign negative (Nat.ofDigitChars 10 ds 0)

/-- **Whether a text is a number with a fraction or an exponent,** or one of the words `inf` and
`nan`. -/
def isReal (s : List Char) : Bool :=
  let (negative, rest) := Reading.sign s
  let mantissa := rest.takeWhile fun c => c != 'e' && c != 'E'
  let whole := mantissa.takeWhile (· != '.')
  if rest = "inf".toList ∨ rest = "nan".toList then true
  else if whole.length = rest.length then false
  else
    match whole? whole, fraction? (mantissa.drop whole.length),
      exponent? (rest.drop mantissa.length) with
    | some ds, some fs, some e =>
      let x := Reading.scaled negative (ds ++ fs) (e - fs.length)
      -- a negative number may be too large to be finite, a positive one may not
      negative || decide (Binary64.magnitude x < Binary64.infinity)
    | _, _, _ => false

/-! ### Dates and times -/

/-- Whether digits are a number that is at most `limit`. -/
def isUpTo (limit : Nat) (digits : List Char) : Bool :=
  (Reading.natural? digits).any fun n => decide (n ≤ limit)

/-- **Whether a text is a date:** four digits for the year, two for the month and two for the
day. -/
def isDate : List Char → Bool
  | [y₁, y₂, y₃, y₄, '-', m₁, m₂, '-', d₁, d₂] =>
    match Reading.natural? [y₁, y₂, y₃, y₄], Reading.natural? [m₁, m₂],
      Reading.natural? [d₁, d₂] with
    | some year, some month, some day => decide (IsDate year month day)
    | _, _, _ => false
  | _ => false

/-- Whether a text is a distance from Greenwich. -/
def isOffset : List Char → Bool
  | ['Z'] | ['z'] => true
  | [sign, h₁, h₂, ':', m₁, m₂] =>
    (sign == '+' || sign == '-') && isUpTo 23 [h₁, h₂] && isUpTo 59 [m₁, m₂]
  | _ => false

/-- Whether a text is a time of the day, to the second or finer, with a condition on what stands
behind it. -/
def isTimeWith (tail : List Char → Bool) : List Char → Bool
  | h₁ :: h₂ :: ':' :: m₁ :: m₂ :: ':' :: s₁ :: s₂ :: rest =>
    isUpTo 23 [h₁, h₂] && isUpTo 59 [m₁, m₂] && isUpTo 60 [s₁, s₂] &&
      match rest with
      | '.' :: more => more.head?.any Char.isDigit && tail (more.dropWhile Char.isDigit)
      | _ => tail rest
  | _ => false

/-- **Whether a text is a time.** A time without a date has no place on the earth. -/
def isTime (s : List Char) : Bool := isTimeWith List.isEmpty s

/-- **Whether a text is a date with a time,** and perhaps with a distance from Greenwich. -/
def isMoment (s : List Char) : Bool :=
  isDate (s.take 10) &&
    match s.drop 10 with
    | mark :: rest =>
      (mark == 'T' || mark == 't' || mark == ' ')
        && isTimeWith (fun tail => tail.isEmpty || isOffset tail) rest
    | [] => false

/-- **Whether a text is a number, a date or a time.** -/
def isScalar (s : List Char) : Bool :=
  isInteger s || isReal s || isDate s || isTime s || isMoment s

end Coffer.Toml
