/-
**Digits of natural numbers.**

Numbers are written in decimal digits, in some places padded with zeros in front, in others without
the zeros at the end, and read back by the value of a run of digits.

Main results:

* `Coffer.Binary64.isDigit_of_mem_padded`, `Coffer.Binary64.length_padded`,
  `Coffer.Binary64.ofDigitChars_padded` — padded digits are digits, of the width asked for, and have
  the value that was written;
* `Coffer.Binary64.padded_ofDigitChars` — digits are the padded digits of their value;
* `Coffer.Binary64.exists_trimZeros_append` — only zeros are dropped at the end;
* `Coffer.ofDigitChars_lt`, `Coffer.le_ofDigitChars` — the count of digits bounds the value from
  above, and from below if the first of them is no zero;
* `Coffer.takeWhile_isDigit_append`, `Coffer.dropWhile_isDigit_append` — a run of digits ends where
  something else follows.
-/

import Coffer.Number.Written

set_option autoImplicit false

namespace Coffer

/-! ### Runs of digits -/

/-- Nothing follows, or something that is no digit. -/
def EndsDigits (rest : List Char) : Prop := ∀ c ∈ rest.head?, c.isDigit = false

theorem endsDigits_nil : EndsDigits [] := by simp [EndsDigits]

theorem endsDigits_cons {c : Char} (h : c.isDigit = false) (rest : List Char) :
    EndsDigits (c :: rest) := by
  simpa [EndsDigits] using h

/-- A run of digits is taken as a whole. -/
theorem takeWhile_isDigit_append {ds rest : List Char} (hds : ∀ c ∈ ds, c.isDigit = true)
    (hrest : EndsDigits rest) : (ds ++ rest).takeWhile Char.isDigit = ds := by
  rw [List.takeWhile_append_of_pos hds]
  cases rest with
  | nil => simp
  | cons c rest =>
      have hc : c.isDigit = false := hrest c rfl
      simp [hc]

theorem dropWhile_isDigit_append {ds rest : List Char} (hds : ∀ c ∈ ds, c.isDigit = true)
    (hrest : EndsDigits rest) : (ds ++ rest).dropWhile Char.isDigit = rest := by
  rw [List.dropWhile_append_of_pos hds]
  cases rest with
  | nil => rfl
  | cons c rest =>
      have hc : c.isDigit = false := hrest c rfl
      simp [hc]

/-! ### Values -/

/-- The value of the digits behind one digit. -/
theorem ofDigitChars_cons_zero (c : Char) (ds : List Char) :
    Nat.ofDigitChars 10 (c :: ds) 0 =
      10 ^ ds.length * (c.toNat - '0'.toNat) + Nat.ofDigitChars 10 ds 0 := by
  rw [Nat.ofDigitChars_cons, Nat.ofDigitChars_eq_ofDigitChars_zero]
  simp

theorem digit_le_nine {c : Char} (h : c.isDigit = true) : c.toNat - '0'.toNat ≤ 9 := by
  have hrange := Char.isDigit_iff_toNat.1 h
  have hzero : '0'.toNat = 0x30 := rfl
  have hnine : '9'.toNat = 0x39 := rfl
  omega

/-- The count of digits bounds their value from above. -/
theorem ofDigitChars_lt {ds : List Char} (h : ∀ c ∈ ds, c.isDigit = true) :
    Nat.ofDigitChars 10 ds 0 < 10 ^ ds.length := by
  induction ds with
  | nil => simp
  | cons c rest ih =>
      have hc := digit_le_nine (h c (by simp))
      have hrest := ih fun d hd => h d (by simp [hd])
      have hmul : 10 ^ rest.length * (c.toNat - '0'.toNat) ≤ 10 ^ rest.length * 9 :=
        Nat.mul_le_mul_left _ hc
      rw [ofDigitChars_cons_zero, List.length_cons, Nat.pow_succ]
      omega

/-- A digit other than zero in front bounds the value from below. -/
theorem le_ofDigitChars {c : Char} {ds : List Char} (hc : c.isDigit = true) (hne : c ≠ '0') :
    10 ^ ds.length ≤ Nat.ofDigitChars 10 (c :: ds) 0 := by
  have hrange := Char.isDigit_iff_toNat.1 hc
  have hzero : '0'.toNat = 0x30 := rfl
  have hne' : c.toNat ≠ '0'.toNat := fun h => hne (Char.toNat_inj.1 h)
  have hmul : 10 ^ ds.length * 1 ≤ 10 ^ ds.length * (c.toNat - '0'.toNat) :=
    Nat.mul_le_mul_left _ (by omega)
  rw [ofDigitChars_cons_zero]
  omega

/-- As many digits with the same value are the same digits. -/
theorem eq_of_ofDigitChars_eq {ds es : List Char} (hds : ∀ c ∈ ds, c.isDigit = true)
    (hes : ∀ c ∈ es, c.isDigit = true) (hlength : ds.length = es.length)
    (hvalue : Nat.ofDigitChars 10 ds 0 = Nat.ofDigitChars 10 es 0) : ds = es := by
  induction ds generalizing es with
  | nil => exact (List.length_eq_zero_iff.1 hlength.symm).symm
  | cons c ds ih =>
      obtain ⟨d, es, rfl⟩ := List.exists_cons_of_length_eq_add_one hlength.symm
      rw [List.forall_mem_cons] at hds hes
      rw [List.length_cons, List.length_cons, Nat.add_right_cancel_iff] at hlength
      rw [ofDigitChars_cons_zero, ofDigitChars_cons_zero, hlength] at hvalue
      -- the digits behind the first are worth less than one of it
      have hlow := hlength ▸ ofDigitChars_lt hds.2
      have hlow' := ofDigitChars_lt hes.2
      have hfirst : c.toNat - '0'.toNat = d.toNat - '0'.toNat := by
        have hquotient := congrArg (· / 10 ^ es.length) hvalue
        simpa only [Nat.mul_add_div (Nat.pow_pos (by decide : 0 < 10)), Nat.div_eq_of_lt hlow,
          Nat.div_eq_of_lt hlow', Nat.add_zero] using hquotient
      rw [hfirst, Nat.add_left_cancel_iff] at hvalue
      have hc := Char.isDigit_iff_toNat.1 hds.1
      have hd := Char.isDigit_iff_toNat.1 hes.1
      have hzero : '0'.toNat = 0x30 := rfl
      rw [Char.toNat_inj.1 (by omega : c.toNat = d.toNat), ih hds.2 hes.2 hlength hvalue]

theorem isDigit_of_mem_dropWhile {ds : List Char} {p : Char → Bool}
    (h : ∀ c ∈ ds, c.isDigit = true) : ∀ c ∈ ds.dropWhile p, c.isDigit = true := by
  intro c hc
  exact h c ((List.dropWhile_sublist p).mem hc)

/-- Zeros in front have no value. -/
theorem ofDigitChars_dropWhile_zero (ds : List Char) :
    Nat.ofDigitChars 10 (ds.dropWhile (· == '0')) 0 = Nat.ofDigitChars 10 ds 0 := by
  induction ds with
  | nil => rfl
  | cons c rest ih =>
      by_cases hc : c = '0'
      · subst hc
        simp [ih, ofDigitChars_cons_zero]
      · simp [hc]

namespace Binary64

/-! ### Padded digits -/

theorem isDigit_of_mem_padded {k n : Nat} {c : Char} (h : c ∈ padded k n) :
    c.isDigit = true := by
  unfold padded at h
  rcases List.mem_append.1 h with h | h
  · rw [List.eq_of_mem_replicate h]
    decide
  · exact Nat.isDigit_of_mem_toDigits (by decide) (by decide) h

theorem takeWhile_isDigit_padded (k n : Nat) {rest : List Char} (h : EndsDigits rest) :
    (padded k n ++ rest).takeWhile Char.isDigit = padded k n :=
  takeWhile_isDigit_append (fun _ hc => isDigit_of_mem_padded hc) h

theorem dropWhile_isDigit_padded (k n : Nat) {rest : List Char} (h : EndsDigits rest) :
    (padded k n ++ rest).dropWhile Char.isDigit = rest :=
  dropWhile_isDigit_append (fun _ hc => isDigit_of_mem_padded hc) h

/-- Padded digits have the width asked for, if the number has no more. -/
theorem length_padded {k n : Nat} (hk : 0 < k) (hn : n < 10 ^ k) :
    (padded k n).length = k := by
  have h := (Nat.length_toDigits_le_iff (b := 10) (n := n) (by decide) hk).2 hn
  simp only [padded, List.length_append, List.length_replicate]
  omega

@[simp] theorem ofDigitChars_padded (width n : Nat) :
    Nat.ofDigitChars 10 (padded width n) 0 = n := by
  simp [padded, Nat.ofDigitChars_append]

/-- Digits are the padded digits of their value. -/
theorem padded_ofDigitChars {ds : List Char} (hne : ds ≠ []) (hds : ∀ c ∈ ds, c.isDigit = true) :
    padded ds.length (Nat.ofDigitChars 10 ds 0) = ds := by
  have hlength := length_padded (List.length_pos_iff.2 hne) (ofDigitChars_lt hds)
  exact eq_of_ofDigitChars_eq (fun _ hc => isDigit_of_mem_padded hc) hds hlength
    (ofDigitChars_padded _ _)

/-! ### Zeros at the end -/

/-- Only zeros are dropped at the end. -/
theorem exists_trimZeros_append (ds : List Char) :
    ∃ k, ds = trimZeros ds ++ List.replicate k '0' := by
  refine ⟨(ds.reverse.takeWhile (· == '0')).length, ?_⟩
  have hzeros : ds.reverse.takeWhile (· == '0') =
      List.replicate (ds.reverse.takeWhile (· == '0')).length '0' := by
    refine List.eq_replicate_of_mem fun c hc => ?_
    simpa using List.all_eq_true.1 List.all_takeWhile c hc
  have hsplit := List.takeWhile_append_dropWhile (p := (· == '0')) (l := ds.reverse)
  rw [hzeros] at hsplit
  simpa [trimZeros] using (congrArg List.reverse hsplit).symm

end Binary64

end Coffer
