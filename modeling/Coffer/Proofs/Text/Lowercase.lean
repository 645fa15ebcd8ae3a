/-
**What lower case leaves alone.**

The characters in front of the capital letters, among them digits, blanks and hyphens, are their own
lower case and that of no other character: capitals of ASCII go to small letters, and the lower case
of every letter beyond ASCII lies behind them too.  A letter may become two characters, but never
none, so that only the empty text becomes empty.

Main results:

* `Coffer.Text.lowerLetter_eq_iff` — **lower case leaves what stands in front of the capitals
  alone;**
* `Coffer.Text.lowercaseChars_eq_nil_iff`, `Coffer.Text.lowercaseChars_eq_singleton_iff` — which
  texts become empty, and which become one of these characters.
-/

import Coffer.Text.Lowercase

set_option autoImplicit false

namespace Coffer.Text

variable {s before after : List Char} {c d : Char}

/-! ### Single letters -/

/-- ASCII letters go to nothing that stands in front of the capitals. -/
theorem toLower_eq_iff (hd : d.toNat < 0x41) : c.toLower = d ↔ c = d := by
  unfold Char.toLower
  split
  · next h =>
      have hlow : 0x41 ≤ c.toNat := h.1
      have hhigh : c.toNat ≤ 0x5A := h.2
      constructor
      · intro heq
        have hval := congrArg Char.toNat heq
        simp at hval
        omega
      · rintro rfl
        omega
  · rfl

/-- The lower case of letters beyond ASCII lies behind the capitals of ASCII. -/
theorem lt_of_mem_lowerRuns {r : LowerRun} (h : r ∈ lowerRuns) :
    (0x41 : Int) ≤ r.first + r.shift := by
  have hall : lowerRuns.all (fun r => decide ((0x41 : Int) ≤ r.first + r.shift)) = true := by
    decide +kernel
  exact of_decide_eq_true (List.all_eq_true.1 hall r h)

/-- A character that is made of a number has that number, or is the first of all. -/
theorem toNat_ofNat_eq_or (n : Nat) : (Char.ofNat n).toNat = n ∨ Char.ofNat n = '\x00' := by
  by_cases h : n.isValidChar
  · left
    rw [Char.ofNat, dif_pos h]
    rfl
  · right
    rw [Char.ofNat, dif_neg h]
    rfl

/-- **Lower case leaves what stands in front of the capitals alone,** and nothing else goes
there. -/
theorem lowerLetter_eq_iff (hnul : d ≠ '\x00') (hd : d.toNat < 0x41) :
    lowerLetter c = d ↔ c = d := by
  unfold lowerLetter
  split
  · exact toLower_eq_iff hd
  · next hc =>
      have hne : c ≠ d := by
        rintro rfl
        omega
      split
      · next r hr =>
          refine iff_of_false (fun heq => ?_) hne
          have hrun := lt_of_mem_lowerRuns (List.mem_of_find?_eq_some hr)
          have hfirst : r.first ≤ c.toNat := by
            have hholds := List.find?_some hr
            simp only [LowerRun.holds, Bool.and_eq_true, decide_eq_true_eq] at hholds
            exact hholds.1.1
          rcases toNat_ofNat_eq_or (c.toNat + r.shift).toNat with hval | hval
          · rw [heq] at hval
            omega
          · exact hnul (heq.symm.trans hval)
      · rfl

/-! ### Texts -/

theorem lowerBetween_ne_nil (before : List Char) (c : Char) (after : List Char) :
    lowerBetween before c after ≠ [] := by
  unfold lowerBetween
  repeat' split
  all_goals exact List.cons_ne_nil _ _

/-- A character becomes one that stands in front of the capitals only if it is that character. -/
theorem lowerBetween_eq_singleton_iff (hnul : d ≠ '\x00') (hd : d.toNat < 0x41) :
    lowerBetween before c after = [d] ↔ c = d := by
  have hdot : c = 'İ' → c ≠ d := by
    rintro rfl rfl
    exact absurd hd (by decide)
  have hsigma : c = 'Σ' → c ≠ d := by
    rintro rfl rfl
    exact absurd hd (by decide)
  have hsmall : ∀ e : Char, 0x41 ≤ e.toNat → [e] ≠ [d] := by
    rintro e he heq
    obtain rfl := List.singleton_inj.1 heq
    omega
  unfold lowerBetween
  split
  · next h => exact iff_of_false (by simp) (hdot h)
  · split
    · next h =>
        refine iff_of_false ?_ (hsigma h)
        split <;> exact hsmall _ (by decide)
    · rw [List.singleton_inj]
      exact lowerLetter_eq_iff hnul hd

theorem lowercaseAfter_eq_self (h : ∀ c ∈ s, c ≠ '\x00' ∧ c.toNat < 0x41) :
    lowercaseAfter before s = s := by
  induction s generalizing before with
  | nil => rfl
  | cons c rest ih =>
      obtain ⟨hnul, hc⟩ := h c List.mem_cons_self
      rw [lowercaseAfter, (lowerBetween_eq_singleton_iff hnul hc).2 rfl,
        ih fun d hd => h d (List.mem_cons_of_mem c hd)]
      rfl

/-- A text of characters in front of the capitals is its own lower case. -/
theorem lowercaseChars_eq_self (h : ∀ c ∈ s, c ≠ '\x00' ∧ c.toNat < 0x41) : lowercaseChars s = s :=
  lowercaseAfter_eq_self h

theorem lowercaseAfter_eq_nil_iff : lowercaseAfter before s = [] ↔ s = [] := by
  cases s with
  | nil => simp [lowercaseAfter]
  | cons c rest => simp [lowercaseAfter, lowerBetween_ne_nil]

/-- Only the empty text becomes empty. -/
theorem lowercaseChars_eq_nil_iff : lowercaseChars s = [] ↔ s = [] :=
  lowercaseAfter_eq_nil_iff

/-- A text becomes a character that stands in front of the capitals only if it is that character. -/
theorem lowercaseChars_eq_singleton_iff (hnul : d ≠ '\x00') (hd : d.toNat < 0x41) :
    lowercaseChars s = [d] ↔ s = [d] := by
  unfold lowercaseChars
  cases s with
  | nil => simp [lowercaseAfter]
  | cons c rest =>
      rw [lowercaseAfter, List.append_eq_singleton_iff, lowerBetween_eq_singleton_iff hnul hd,
        lowercaseAfter_eq_nil_iff]
      simp [lowerBetween_ne_nil]

end Coffer.Text
