/-
**Lower case in the middle of a text.**

Lower case goes character by character, except that a capital sigma looks for its neighbours on both
sides.  So the lower case of a piece of a text is that of the piece alone if the sigmas in it end a
word in the text exactly where they do in the piece.  Whether a sigma does is settled within the
piece if the neighbour in front has no case, if the neighbour behind has, or if both are there;
everything else is open to what the piece is put between.

Main definitions:

* `Coffer.Text.lowercaseWithin` — the lower case of a piece of a text;
* `Coffer.Text.EndsWordsAlike` — the sigmas of a piece end words alike in two places;
* `Coffer.Text.IsSettled` — **a text settles by itself which of its sigmas end a word.**

Main results:

* `Coffer.Text.lowercaseWithin_congr` — where sigmas end words alike, lower case is the same;
* `Coffer.Text.IsSettled.infix_lowercaseChars` — a settled text occurs in lower case wherever it
  occurs;
* `Coffer.Text.isSettled_iff` — **and no other text does.**
-/

import Coffer.Proofs.Text.Lowercase
import Mathlib.Tactic.ByContra

set_option autoImplicit false

namespace Coffer.Text

variable {s t before after before' after' : List Char}

/-! ### Neighbours -/

/-- Whether the nearest character that counts has case; there need not be one. -/
def neighbour? (s : List Char) : Option Bool := (s.dropWhile isIgnorable).head?.map isCased

theorem nextIsCased_eq (s : List Char) : nextIsCased s = (neighbour? s).getD false := by
  unfold nextIsCased neighbour?
  cases s.dropWhile isIgnorable <;> rfl

/-- The nearest of two pieces is looked at first. -/
theorem neighbour?_append (s t : List Char) :
    neighbour? (s ++ t) = (neighbour? s).or (neighbour? t) := by
  unfold neighbour?
  rw [List.dropWhile_append]
  cases s.dropWhile isIgnorable <;> simp

theorem neighbour?_sigma (s : List Char) : neighbour? ('Σ' :: s) = some true := by
  have hcounts : isIgnorable 'Σ' = false := by decide +kernel
  have hcased : isCased 'Σ' = true := by decide +kernel
  simp [neighbour?, hcounts, hcased]

/-- Whether a sigma between a reversed text and another one ends a word. -/
def endsWord (before after : List Char) : Bool := nextIsCased before && !nextIsCased after

/-! ### Pieces -/

/-- The lower case of a piece of a text, between what stands in front, in reverse, and behind. -/
def lowercaseWithin (before : List Char) : List Char → List Char → List Char
  | [], _ => []
  | c :: rest, after =>
    lowerBetween before c (rest ++ after) ++ lowercaseWithin (c :: before) rest after

theorem lowercaseAfter_eq (before s : List Char) :
    lowercaseAfter before s = lowercaseWithin before s [] := by
  induction s generalizing before with
  | nil => rfl
  | cons c rest ih => rw [lowercaseAfter, lowercaseWithin, List.append_nil, ih]

theorem lowercaseWithin_append (before s t after : List Char) :
    lowercaseWithin before (s ++ t) after =
      lowercaseWithin before s (t ++ after) ++ lowercaseWithin (s.reverse ++ before) t after := by
  induction s generalizing before with
  | nil => rfl
  | cons c rest ih =>
      rw [List.cons_append, lowercaseWithin, lowercaseWithin, ih, List.append_assoc,
        List.append_assoc, List.reverse_cons, List.append_assoc, List.singleton_append]

theorem lowercaseChars_append (before s after : List Char) :
    lowercaseChars (before ++ s ++ after) =
      lowercaseWithin [] before (s ++ after) ++ lowercaseWithin before.reverse s after ++
        lowercaseWithin (s.reverse ++ before.reverse) after [] := by
  rw [lowercaseChars, lowercaseAfter_eq, lowercaseWithin_append, lowercaseWithin_append,
    List.append_nil, List.append_nil, List.append_nil, List.reverse_append]

/-- The sigmas of a piece end words alike in two places. -/
def EndsWordsAlike (s before after before' after' : List Char) : Prop :=
  ∀ l r, s = l ++ 'Σ' :: r →
    endsWord (l.reverse ++ before) (r ++ after) = endsWord (l.reverse ++ before') (r ++ after')

theorem endsWordsAlike_of_notMem (h : 'Σ' ∉ s) : EndsWordsAlike s before after before' after' := by
  intro l r hs
  exact absurd (by simp [hs]) h

theorem lowerBetween_congr {c : Char}
    (h : c = 'Σ' → endsWord before after = endsWord before' after') :
    lowerBetween before c after = lowerBetween before' c after' := by
  unfold lowerBetween
  split
  · rfl
  · split
    · next hc =>
        have hends := h hc
        unfold endsWord at hends
        rw [hends]
    · rfl

/-- **Where sigmas end words alike, lower case is the same.** -/
theorem lowercaseWithin_congr (h : EndsWordsAlike s before after before' after') :
    lowercaseWithin before s after = lowercaseWithin before' s after' := by
  induction s generalizing before before' with
  | nil => rfl
  | cons c rest ih =>
      have hrest : EndsWordsAlike rest (c :: before) after (c :: before') after' := by
        intro l r hs
        have hends := h (c :: l) r (by rw [hs]; rfl)
        rwa [List.reverse_cons, List.append_assoc, List.append_assoc] at hends
      have hfirst : lowerBetween before c (rest ++ after) =
          lowerBetween before' c (rest ++ after') :=
        lowerBetween_congr fun hc => h [] rest (by rw [hc]; rfl)
      rw [lowercaseWithin, lowercaseWithin, ih hrest, hfirst]

/-- A text occurs in lower case where its sigmas end words as they do in the text alone. -/
theorem infix_lowercaseChars_of_endsWordsAlike (h : EndsWordsAlike s [] [] before.reverse after) :
    lowercaseChars s <:+: lowercaseChars (before ++ s ++ after) := by
  rw [lowercaseChars_append, lowercaseChars, lowercaseAfter_eq, lowercaseWithin_congr h]
  exact ⟨_, _, rfl⟩

/-! ### Texts that settle their sigmas -/

/-- What a sigma sees in a text settles whether it ends a word, whatever the text is put between. -/
def Settles (front behind : Option Bool) : Prop :=
  front = some false ∨ behind = some true ∨ front.isSome ∧ behind.isSome

/-- **A text settles by itself which of its sigmas end a word.** -/
def IsSettled (s : List Char) : Prop :=
  ∀ l r, s = l ++ 'Σ' :: r → Settles (neighbour? l.reverse) (neighbour? r)

theorem isSettled_iff_forall_fin : IsSettled s ↔ ∀ i : Fin s.length, s[i] = 'Σ' →
    Settles (neighbour? (s.take i).reverse) (neighbour? (s.drop (i + 1))) := by
  constructor
  · intro h i hi
    have hsplit : s = s.take i ++ s[i] :: s.drop (i + 1) := by
      rw [Fin.getElem_fin, ← List.drop_eq_getElem_cons, List.take_append_drop]
    exact h _ _ (hi ▸ hsplit)
  · rintro h l r rfl
    have hsettles := h ⟨l.length, by simp⟩
    simpa using hsettles

instance (front behind : Option Bool) : Decidable (Settles front behind) :=
  inferInstanceAs (Decidable (_ ∨ _ ∨ _ ∧ _))

instance (s : List Char) : Decidable (IsSettled s) :=
  decidable_of_iff _ isSettled_iff_forall_fin.symm

example : IsSettled "ΟΣΜ".toList ∧ ¬ IsSettled "ΚΟΣ".toList := by decide +kernel

theorem isSettled_of_notMem (h : 'Σ' ∉ s) : IsSettled s := by
  intro l r hs
  exact absurd (by simp [hs]) h

theorem IsSettled.endsWordsAlike (h : IsSettled s) (before after before' after' : List Char) :
    EndsWordsAlike s before after before' after' := by
  intro l r hs
  have hsettles := h l r hs
  unfold endsWord
  simp only [nextIsCased_eq, neighbour?_append]
  -- what is not decided by one neighbour is decided by both
  rcases hfront : neighbour? l.reverse with _ | _ | _ <;>
    rcases hbehind : neighbour? r with _ | _ | _ <;>
    simp_all [Settles]

/-- **A settled text occurs in lower case wherever it occurs.** -/
theorem IsSettled.infix_lowercaseChars (h : IsSettled s) (ht : s <:+: t) :
    lowercaseChars s <:+: lowercaseChars t := by
  obtain ⟨before, after, rfl⟩ := ht
  exact infix_lowercaseChars_of_endsWordsAlike (h.endsWordsAlike [] [] before.reverse after)

/-! ### Texts that do not -/

/-- A sigma becomes one of the two small sigmas. -/
def smallSigma (endsWord : Bool) : Char := if endsWord then 'ς' else 'σ'

theorem smallSigma_ne {p q : Bool} (h : p ≠ q) : smallSigma p ≠ smallSigma q := by
  revert p q
  decide

theorem lowerBetween_sigma (before after : List Char) :
    lowerBetween before 'Σ' after = [smallSigma (endsWord before after)] := by
  unfold lowerBetween smallSigma endsWord
  rw [if_neg (by decide), if_pos rfl]
  split <;> rfl

theorem lowercaseWithin_sigma (before l r after : List Char) :
    lowercaseWithin before (l ++ 'Σ' :: r) after = lowercaseWithin before l ('Σ' :: (r ++ after)) ++
      smallSigma (endsWord (l.reverse ++ before) (r ++ after)) ::
        lowercaseWithin ('Σ' :: (l.reverse ++ before)) r after := by
  rw [lowercaseWithin_append, lowercaseWithin, lowerBetween_sigma]
  rfl

theorem exists_smallSigma_mem (h : 'Σ' ∈ s) : ∃ p, smallSigma p ∈ lowercaseChars s := by
  obtain ⟨l, r, rfl⟩ := List.append_of_mem h
  rw [lowercaseChars, lowercaseAfter_eq, lowercaseWithin_sigma]
  exact ⟨_, List.mem_append_right _ List.mem_cons_self⟩

/-- Behind a sigma nothing in front of it is seen. -/
theorem endsWordsAlike_behind (r x x' after : List Char) :
    EndsWordsAlike r ('Σ' :: x) after ('Σ' :: x') after := by
  intro l' r' _
  unfold endsWord
  simp only [nextIsCased_eq, neighbour?_append, neighbour?_sigma]

/-- In front of a sigma nothing behind it is seen. -/
theorem endsWordsAlike_inFront (l before y y' : List Char) :
    EndsWordsAlike l before ('Σ' :: y) before ('Σ' :: y') := by
  intro l' r' _
  unfold endsWord
  simp only [nextIsCased_eq, neighbour?_append, neighbour?_sigma]

theorem notMem_of_neighbour?_eq_none (h : neighbour? s = none) : 'Σ' ∉ s := by
  intro hmem
  obtain ⟨l, r, rfl⟩ := List.append_of_mem hmem
  rw [neighbour?_append, neighbour?_sigma] at h
  cases hl : neighbour? l <;> rw [hl] at h <;> cases h

/-- A row with one character exchanged for another one, and more around it, lacks that character. -/
theorem not_infix_of_exchange {x y w z : List Char} {c d : Char} (hd : d ≠ c) (hw : c ∉ w)
    (hz : c ∉ z) : ¬ x ++ c :: y <:+: w ++ (x ++ d :: y) ++ z := by
  intro h
  have hcount := h.sublist.count_le c
  simp only [List.count_append, List.count_cons_self, List.count_cons_of_ne hd,
    List.count_eq_zero.2 hw, List.count_eq_zero.2 hz] at hcount
  omega

/-- A text that becomes no sigma. -/
def LacksSigma (s : List Char) : Prop :=
  ∀ p before after, smallSigma p ∉ lowercaseWithin before s after

theorem lacksSigma_nil : LacksSigma [] := fun _ _ _ => List.not_mem_nil

theorem lacksSigma_a : LacksSigma ['a'] := by
  intro p before after
  have ha : lowercaseWithin before ['a'] after = ['a'] := rfl
  rw [ha]
  revert p
  decide

/-- A text is not found where one of its sigmas ends a word otherwise than in the text alone, and
the others as they do there. -/
theorem not_infix_lowercaseChars {l r before after : List Char} (hbefore : LacksSigma before)
    (hafter : LacksSigma after)
    (hl : EndsWordsAlike l [] ('Σ' :: r) before.reverse ('Σ' :: (r ++ after)))
    (hr : EndsWordsAlike r ('Σ' :: l.reverse) [] ('Σ' :: (l.reverse ++ before.reverse)) after)
    (hdiffers : endsWord l.reverse r ≠ endsWord (l.reverse ++ before.reverse) (r ++ after)) :
    ¬ lowercaseChars (l ++ 'Σ' :: r) <:+: lowercaseChars (before ++ (l ++ 'Σ' :: r) ++ after) := by
  rw [lowercaseChars_append, lowercaseWithin_sigma before.reverse, lowercaseChars,
    lowercaseAfter_eq, lowercaseWithin_sigma []]
  simp only [List.append_nil]
  rw [lowercaseWithin_congr hl, lowercaseWithin_congr hr]
  exact not_infix_of_exchange (smallSigma_ne hdiffers.symm) (hbefore _ _ _) (hafter _ _ _)

/-- **A text occurs in lower case wherever it occurs exactly if it is settled.** -/
theorem isSettled_iff : IsSettled s ↔ ∀ t, s <:+: t → lowercaseChars s <:+: lowercaseChars t := by
  refine ⟨fun h t ht => h.infix_lowercaseChars ht, fun h l r hs => ?_⟩
  by_contra hopen
  subst hs
  have ha : neighbour? ['a'] = some true := by decide +kernel
  cases hfront : neighbour? l.reverse with
  | none =>
      -- with a letter in front of the text the sigma ends a word
      have hnone : 'Σ' ∉ l :=
        fun hmem => notMem_of_neighbour?_eq_none hfront (List.mem_reverse.2 hmem)
      refine not_infix_lowercaseChars lacksSigma_a lacksSigma_nil (endsWordsAlike_of_notMem hnone)
        (endsWordsAlike_behind r _ _ []) ?_ (h _ ⟨['a'], [], rfl⟩)
      unfold endsWord
      rcases hbehind : neighbour? r with _ | _ | _ <;>
        simp_all [Settles, nextIsCased_eq, neighbour?_append]
  | some cased =>
      -- with a letter behind the text the sigma does not end a word
      have hbehind : neighbour? r = none := by
        by_contra hsome
        rw [hfront] at hopen
        exact hopen (.inr (.inr ⟨rfl, Option.isSome_iff_ne_none.2 hsome⟩))
      have hnone : 'Σ' ∉ r := notMem_of_neighbour?_eq_none hbehind
      refine not_infix_lowercaseChars lacksSigma_nil lacksSigma_a (endsWordsAlike_inFront l [] _ _)
        (endsWordsAlike_of_notMem hnone) ?_ (h _ ⟨[], ['a'], rfl⟩)
      unfold endsWord
      simp_all [Settles, nextIsCased_eq, neighbour?_append]

end Coffer.Text
