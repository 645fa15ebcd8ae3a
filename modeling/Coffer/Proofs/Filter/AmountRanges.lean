/-
**Ranges of amounts and the point at the end of an amount.**

An amount is written in digits with a sign and a currency sign in front of them, and its point can
stand behind all of its digits, as in `5.`, or in front of them.  A range is split at its first two
dots in a row, before any of its bounds is read.  An amount holds no two dots in a row, so only a
point at the end of the low bound can be taken for the beginning of the dots between the bounds:
then the split comes one place too early, and the last of the three dots goes to the high bound.

Whether all ranges from a low bound are read between their bounds is therefore a matter of this
bound alone. If a point stands at its end then each high bound is read with a point in front, so
that `amount:-5...10` is a range that ends at a tenth, and `amount:5...$10` is no range at all.

Main definitions:

* `Coffer.Predicate.IsSigns`, `Coffer.Predicate.IsCurrency` — what stands in front of the digits;
* `Coffer.Predicate.EndsWithPoint` — a point stands at the end;
* `Coffer.Filter.between` — what a range between two amounts is read as.

Main results:

* `Coffer.Predicate.exists_signs_of_amount?` — how amounts are written;
* `Coffer.Predicate.hasNoRange_or_endsWithPoint` — where the dots of an amount stand;
* `Coffer.Filter.amount_range_iff` — **a range is read between its bounds exactly if no point stands
  at the end of the low bound.**
-/

import Coffer.Proofs.Filter.Composition

set_option autoImplicit false

namespace Coffer

open Binary64 (plainChars magnitude infinity)

/-! ### How amounts are written -/

namespace Predicate

/-- The sign in front of an amount, if there is one, and whether it is a minus. -/
inductive IsSigns : Bool → List Char → Prop
  | none : IsSigns false []
  | plus : IsSigns false ['+']
  | minus : IsSigns true ['-']

/-- The currency sign in front of the digits, if there is one. -/
def IsCurrency (s : List Char) : Prop := s = [] ∨ s = ['$']

variable {s : List Char} {x : Float}

/-- A decimal starts with a digit or with its point. -/
theorem exists_cons_of_pointed? {p : List Char × List Char} (h : Reading.pointed? s = some p) :
    ∃ c rest, s = c :: rest ∧ (c.isDigit = true ∨ c = '.') := by
  obtain ⟨ds, es⟩ := p
  obtain ⟨hds, -, ⟨rfl, hne, -⟩ | ⟨rfl, -⟩⟩ := Reading.digits_of_pointed? h
  · obtain ⟨c, rest, rfl⟩ := List.exists_cons_of_ne_nil hne
    exact ⟨c, rest, rfl, .inl (hds c (by simp))⟩
  · cases ds with
    | nil => exact ⟨'.', es, rfl, .inr rfl⟩
    | cons c rest => exact ⟨c, rest ++ '.' :: es, rfl, .inl (hds c (by simp))⟩

/-- The amount of a decimal behind its signs. -/
theorem amount?_append {negative : Bool} {sign currency : List Char} {p : List Char × List Char}
    (hsign : IsSigns negative sign) (hcurrency : IsCurrency currency)
    (hp : Reading.pointed? s = some p) :
    amount? (sign ++ (currency ++ s)) =
      if magnitude (Reading.ofPointed negative p) < infinity then
        some (Reading.ofPointed negative p)
      else none := by
  obtain ⟨c, rest, rfl, hc⟩ := exists_cons_of_pointed? hp
  have hplus : c ≠ '+' := by rintro rfl; exact absurd hc (by decide)
  have hminus : c ≠ '-' := by rintro rfl; exact absurd hc (by decide)
  have hdollar : c ≠ '$' := by rintro rfl; exact absurd hc (by decide)
  have hread (negative : Bool) : Reading.decimal? negative (c :: rest) =
      some (Reading.ofPointed negative p) := by
    rw [Reading.decimal?, hp, Option.map_some]
  obtain rfl | rfl := hcurrency
  · cases hsign with
    | none => simp [amount?, Reading.sign, hplus, hminus, hdollar, hread]
    | plus => simp [amount?, Reading.sign, hdollar, hread]
    | minus => simp [amount?, Reading.sign, hdollar, hread]
  · cases hsign with
    | none => simp [amount?, Reading.sign, hread]
    | plus => simp [amount?, Reading.sign, hread]
    | minus => simp [amount?, Reading.sign, hread]

theorem exists_sign_append (s : List Char) :
    ∃ sign, IsSigns (Reading.sign s).1 sign ∧ s = sign ++ (Reading.sign s).2 := by
  unfold Reading.sign
  split
  · exact ⟨['-'], .minus, rfl⟩
  · exact ⟨['+'], .plus, rfl⟩
  · exact ⟨[], .none, rfl⟩

/-- What is behind the currency sign of an amount is a decimal. -/
theorem exists_currency_of_amount? (h : amount? s = some x) :
    ∃ currency body p, IsCurrency currency ∧ (Reading.sign s).2 = currency ++ body ∧
      Reading.pointed? body = some p := by
  unfold amount? at h
  generalize Reading.sign s = parts at h ⊢
  obtain ⟨negative, unsigned⟩ := parts
  dsimp only at h ⊢
  split at h
  · next hread =>
      obtain ⟨p, hp, -⟩ := Option.map_eq_some_iff.1 hread
      split at hp
      · next body => exact ⟨['$'], body, p, .inr rfl, rfl, hp⟩
      · exact ⟨[], unsigned, p, .inl rfl, rfl, hp⟩
  · cases h

/-- **An amount is a decimal behind its signs.** -/
theorem exists_signs_of_amount? (h : amount? s = some x) :
    ∃ negative sign currency body p, IsSigns negative sign ∧ IsCurrency currency ∧
      s = sign ++ (currency ++ body) ∧ Reading.pointed? body = some p := by
  obtain ⟨sign, hsign, hs⟩ := exists_sign_append s
  obtain ⟨currency, body, p, hcurrency, hunsigned, hp⟩ := exists_currency_of_amount? h
  exact ⟨_, sign, currency, body, p, hsign, hcurrency, hunsigned ▸ hs, hp⟩

/-- The characters of an amount. -/
theorem mem_of_amount? (h : amount? s = some x) {c : Char} (hc : c ∈ s) :
    c.isDigit = true ∨ c ∈ ['.', '+', '-', '$'] := by
  obtain ⟨negative, sign, currency, body, ⟨ds, es⟩, hsign, hcurrency, rfl, hp⟩ :=
    exists_signs_of_amount? h
  obtain ⟨hds, hes, hbody⟩ := Reading.digits_of_pointed? hp
  rw [List.mem_append, List.mem_append] at hc
  rcases hc with hc | hc | hc
  · cases hsign <;> simp_all
  · obtain rfl | rfl := hcurrency <;> simp_all
  · obtain ⟨rfl, -, -⟩ | ⟨rfl, -⟩ := hbody
    · exact .inl (hds c hc)
    · rcases List.mem_append.1 hc with hc | hc
      · exact .inl (hds c hc)
      · rcases List.mem_cons.1 hc with rfl | hc
        · exact .inr (by simp)
        · exact .inl (hes c hc)

theorem isWordChar_of_amount? (h : amount? s = some x) : ∀ c ∈ s, Token.isWordChar c = true := by
  intro c hc
  rcases mem_of_amount? h hc with hdigit | hmem
  · exact isWordChar_of_isDigit hdigit
  · have hall : ['.', '+', '-', '$'].all Token.isWordChar = true := by decide
    exact List.all_eq_true.1 hall c hmem

theorem startsWithSign_of_amount? (h : amount? s = some x) : Filter.startsWithSign s = false := by
  cases s with
  | nil => rfl
  | cons c rest =>
      have hc := mem_of_amount? h (c := c) (by simp)
      have hgreater : c ≠ '>' := by rintro rfl; exact absurd hc (by decide)
      have hless : c ≠ '<' := by rintro rfl; exact absurd hc (by decide)
      simp [Filter.startsWithSign, hgreater, hless]

theorem amount_eq_ok_iff : amount s = .ok x ↔ amount? s = some x := by
  unfold amount
  cases amount? s with
  | none => simp
  | some y => simp

/-! ### The dots of an amount -/

/-- A point stands at the end. -/
def EndsWithPoint (s : List Char) : Prop := ∃ t, s = t ++ ['.']

theorem not_endsWithPoint_of_isDigit {ds : List Char} (hne : ds ≠ [])
    (hds : ∀ c ∈ ds, c.isDigit = true) : ¬ EndsWithPoint (s ++ ds) := by
  rintro ⟨t, ht⟩
  obtain ⟨ds, d, rfl⟩ := ds.eq_nil_or_concat.resolve_left hne
  rw [List.concat_eq_append, ← List.append_assoc] at ht
  obtain ⟨-, hlast⟩ := List.append_inj' ht rfl
  obtain rfl : d = '.' := by simpa using hlast
  exact dot_ne_of_isDigit (hds '.' (by simp)) rfl

/-- **Only the point at the end of an amount can be taken for the beginning of a range.**  Without
it the amount is the same. -/
theorem hasNoRange_or_endsWithPoint (h : amount? s = some x) :
    HasNoRange s ∧ ¬ EndsWithPoint s ∨
      ∃ t, s = t ++ ['.'] ∧ HasNoRange t ∧ amount? t = some x := by
  obtain ⟨negative, sign, currency, body, ⟨ds, es⟩, hsign, hcurrency, rfl, hp⟩ :=
    exists_signs_of_amount? h
  have hfront : HasNoRange (sign ++ currency) := by
    refine .of_notMem ?_
    obtain rfl | rfl := hcurrency <;> cases hsign <;> decide
  obtain ⟨hds, hes, hbody⟩ := Reading.digits_of_pointed? hp
  have hwhole : HasNoRange (sign ++ currency ++ ds) := hfront.append (.of_isDigit hds)
  rw [← List.append_assoc] at h ⊢
  obtain ⟨rfl, hne, -⟩ | ⟨rfl, hne⟩ := hbody
  · exact .inl ⟨hwhole, not_endsWithPoint_of_isDigit hne hds⟩
  · cases es with
    | nil =>
        -- the digits in front of the point are the whole amount
        refine .inr ⟨sign ++ currency ++ ds, (List.append_assoc ..).symm, hwhole, ?_⟩
        have hdigits := Reading.pointed?_digits hds (by simpa using hne)
        rw [List.append_assoc, amount?_append hsign hcurrency hp] at h
        rw [List.append_assoc, amount?_append hsign hcurrency hdigits, h]
    | cons e es =>
        have hassoc : sign ++ currency ++ (ds ++ '.' :: e :: es) =
            sign ++ currency ++ ds ++ ['.'] ++ e :: es := by
          simp
        refine .inl ⟨?_, hassoc ▸ not_endsWithPoint_of_isDigit (by simp) hes⟩
        rw [← List.append_assoc]
        exact hwhole.append_point (by simp) hes

end Predicate

/-! ### Ranges of amounts -/

namespace Filter

open Predicate

/-- What a range between two amounts is read as: its bounds must be in order. -/
def between (x y : Float) : Except FilterError (Option Filter) :=
  if y < x then .error (.invertedRange (rangeText (plainChars x) (plainChars y)))
  else .ok (some (.field ⟨.amount, .equal, .amountRange x y⟩))

variable {low high : String} {x y : Float}

/-- The range is read between the two bounds that the value is split into. -/
theorem parse_amount_range {s t : List Char} (hlow : amount? low.toList = some x)
    (hhigh : amount? high.toList = some y)
    (hsplit : splitRange? (low.toList ++ '.' :: '.' :: high.toList) = some (s, t))
    (hs : amount? s = some x) :
    parse ("amount:" ++ low ++ ".." ++ high) = (amount t).bind (between x) := by
  have hparse := parse_range (f := .amount) rfl (startsWithSign_of_amount? hlow)
    (isWordChar_of_amount? hlow) (isWordChar_of_amount? hhigh)
  rw [hsplit] at hparse
  refine hparse.trans ?_
  simp only [orderedValue, amountRange, amount_eq_ok_iff.2 hs, bind, Except.bind]
  cases amount t with
  | error e => rfl
  | ok z =>
      unfold between
      by_cases hlt : z < x
      · simp [hlt, Except.map]
      · simp [hlt, Except.map]

/-- The bounds of a range are kept if no point stands at the end of the low one. -/
theorem parse_amount_range_of_not_endsWithPoint (hlow : amount? low.toList = some x)
    (hhigh : amount? high.toList = some y) (hpoint : ¬ EndsWithPoint low.toList) :
    parse ("amount:" ++ low ++ ".." ++ high) = between x y := by
  obtain ⟨hrange, -⟩ | ⟨t, ht, -, -⟩ := hasNoRange_or_endsWithPoint hlow
  · rw [parse_amount_range hlow hhigh (hrange.splitRange?_append_dots _) hlow,
      amount_eq_ok_iff.2 hhigh]
    rfl
  · exact absurd ⟨t, ht⟩ hpoint

/-- A point at the end of the low bound goes to the high one. -/
theorem parse_amount_range_of_endsWithPoint (hlow : amount? low.toList = some x)
    (hhigh : amount? high.toList = some y) (hpoint : EndsWithPoint low.toList) :
    parse ("amount:" ++ low ++ ".." ++ high) =
      (amount ('.' :: high.toList)).bind (between x) := by
  obtain ⟨-, hnot⟩ | ⟨t, ht, hrange, hbare⟩ := hasNoRange_or_endsWithPoint hlow
  · exact absurd hpoint hnot
  · refine parse_amount_range hlow hhigh ?_ hbare
    have hsplit := hrange.splitRange?_append_dots ('.' :: high.toList)
    rwa [ht, List.append_assoc]

/-- Only digits are an amount behind a point. -/
theorem amount_point_of_not_digits {s : List Char} (h : s.all Char.isDigit = false) :
    amount ('.' :: s) = .error (.invalidAmount (String.ofList ('.' :: s))) := by
  have hpoint : Reading.pointed? ('.' :: s) = none := by simp [Reading.pointed?, h]
  have hnone : amount? ('.' :: s) = none := by
    simp [amount?, Reading.sign, Reading.decimal?, hpoint]
  rw [amount, hnone]

/-- **A range is read between its bounds exactly if no point stands at the end of the low bound.**
Otherwise the point is read with the high bound, and what that makes of it is the end of the
range. -/
theorem amount_range_iff (hlow : amount low.toList = .ok x) :
    ((∀ high y, amount high.toList = .ok y →
      parse ("amount:" ++ low ++ ".." ++ high) = between x y) ↔ ¬ EndsWithPoint low.toList) ∧
    (EndsWithPoint low.toList → ∀ high y, amount high.toList = .ok y →
      parse ("amount:" ++ low ++ ".." ++ high) =
        (amount ('.' :: high.toList)).bind (between x)) := by
  have hlow := amount_eq_ok_iff.1 hlow
  refine ⟨⟨fun hkept hpoint => ?_, fun hpoint high y hhigh => ?_⟩, fun hpoint high y hhigh => ?_⟩
  · -- a high bound with a sign is no amount behind a point
    have hzero : amount? "+0".toList = some 0 := by cbv
    have hread := parse_amount_range_of_endsWithPoint hlow hzero hpoint
    rw [hkept "+0" 0 (amount_eq_ok_iff.2 hzero), amount_point_of_not_digits (by decide)] at hread
    unfold between at hread
    split at hread <;> cases hread
  · exact parse_amount_range_of_not_endsWithPoint hlow (amount_eq_ok_iff.1 hhigh) hpoint
  · exact parse_amount_range_of_endsWithPoint hlow (amount_eq_ok_iff.1 hhigh) hpoint

/-- The range from `-5.` to `10` ends at a tenth. -/
theorem amount_range_iff_minusFive :
    amount "-5.".toList = .ok (-5) ∧ amount "10".toList = .ok 10 ∧
    parse "amount:-5...10" = .ok (some (.field ⟨.amount, .equal, .amountRange (-5) 0.1⟩)) := by
  have hlow : amount "-5.".toList = .ok (-5) := amount_eq_ok_iff.2 (by decide +kernel)
  have hhigh : amount "10".toList = .ok 10 := amount_eq_ok_iff.2 (by decide +kernel)
  have htenth : amount ".10".toList = .ok 0.1 := amount_eq_ok_iff.2 (by decide +kernel)
  have hpoint : EndsWithPoint "-5.".toList := ⟨"-5".toList, by decide⟩
  have hread : parse "amount:-5...10" = (amount ".10".toList).bind (between (-5)) :=
    (amount_range_iff hlow).2 hpoint "10" 10 hhigh
  have horder : ¬ (0.1 : Float) < -5 := by decide +kernel
  refine ⟨hlow, hhigh, ?_⟩
  rw [hread, htenth]
  show between (-5) 0.1 = _
  rw [between, if_neg horder]

/-- The amounts `5.` and `$10` are in order, and no range is read between them. -/
theorem not_amount_range_currency :
    amount "5.".toList = .ok 5 ∧ amount "$10".toList = .ok 10 ∧ ¬ (10 : Float) < 5 ∧
    parse ("amount:" ++ "5." ++ ".." ++ "$10") = .error (.invalidAmount ".$10") := by
  have hlow : amount? "5.".toList = some 5 := by decide +kernel
  have hhigh : amount? "$10".toList = some 10 := by decide +kernel
  refine ⟨amount_eq_ok_iff.2 hlow, amount_eq_ok_iff.2 hhigh, by decide, ?_⟩
  rw [parse_amount_range_of_endsWithPoint hlow hhigh ⟨"5".toList, by decide⟩,
    amount_point_of_not_digits (by decide)]
  rfl

end Filter

end Coffer
