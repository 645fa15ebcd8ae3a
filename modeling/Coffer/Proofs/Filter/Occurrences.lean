/-
**A text that is there is found.**

What is searched for and what it is searched in are put in lower case each for itself.  A text that
occurs in a description, a name or a raw date is found there if it settles which of its capital
sigmas end a word; all texts without capital sigmas do.  Other texts are found where their sigmas
end words as they do in the text alone, and there are places where they are not found: `ΚΟΣ`, the
beginning of `ΚΟΣΜΟΣ`, is one of them.  The text of a date has no letters, so that all that occurs
in it is found.

Main definitions:

* `Coffer.View.texts` — what is written about a transaction, apart from its date.

Main results:

* `Coffer.Filter.selects_metadata_iff` — what a search in everything written looks through;
* `Coffer.Filter.finds_what_occurs` — **the texts that are found wherever they occur are those that
  settle their sigmas.**
-/

import Coffer.Proofs.Filter.Vacuity
import Coffer.Proofs.Text.WordEnds
import Coffer.Store.DateCell

set_option autoImplicit false

namespace Coffer

/-- What is written about a transaction, apart from its date. -/
def View.texts (v : View) : List String :=
  v.transaction.description ::
    (v.category.toList ++ v.tags.map Tag.name ++ v.transaction.dateRaw.toList)

/-- A transaction of which nothing is known but its description. -/
def View.described (description : String) : View where
  transaction := ⟨⟨none, .min, none, description, 0, none⟩, 1⟩
  tags := []
  category := none
  account := none

namespace Filter

open Text (IsSettled EndsWordsAlike lowercaseChars)

variable {s : String} {v : View}

/-! ### What a search looks through -/

theorem selects_description_iff : (ofFieldText .description s).selects v = true ↔
    lowercaseChars s.toList <:+: lowercaseChars v.transaction.description.toList :=
  Text.occurs_eq_true_iff

theorem selects_text_description_iff : (text s .description).selects v = true ↔
    lowercaseChars s.toList <:+: lowercaseChars v.transaction.description.toList :=
  Text.occurs_eq_true_iff

/-- **What a search in everything written looks through:** the texts and the date. -/
theorem selects_metadata_iff : (text s .metadata).selects v = true ↔
    (∃ t ∈ v.texts, lowercaseChars s.toList <:+: lowercaseChars t.toList) ∨
      lowercaseChars s.toList <:+: v.transaction.date.isoChars := by
  show metadataHolds (lowercaseChars s.toList) v = true ↔ _
  simp only [metadataHolds, Text.holdsLower, Bool.or_eq_true, Text.occurs_eq_true_iff, View.texts,
    List.mem_cons, List.mem_append, List.mem_map, Option.mem_toList, Option.any_eq_true,
    List.any_eq_true]
  grind

/-! ### Dates -/

/-- The text of a date is its own lower case. -/
theorem lowercaseChars_of_infix_isoChars {cs : List Char} {d : Date} (h : cs <:+: d.isoChars) :
    lowercaseChars cs = cs := by
  refine Text.lowercaseChars_eq_self fun c hc => ?_
  have hrange := DateCell.toNat_of_isDateChar (DateCell.isDateChar_of_mem_isoChars (h.subset hc))
  refine ⟨?_, by omega⟩
  rintro rfl
  exact absurd hrange (by decide)

/-- A text with a capital sigma is not found in a date. -/
theorem not_infix_isoChars {cs : List Char} (hsigma : 'Σ' ∈ cs) (d : Date) :
    ¬ lowercaseChars cs <:+: d.isoChars := by
  intro h
  obtain ⟨p, hp⟩ := Text.exists_smallSigma_mem hsigma
  have hdate := DateCell.isDateChar_of_mem_isoChars (h.subset hp)
  cases p <;> exact absurd hdate (by decide)

/-! ### What occurs is found -/

theorem selects_of_infix_lowercaseChars
    (h : lowercaseChars s.toList <:+: lowercaseChars v.transaction.description.toList) :
    (ofFieldText .description s).selects v = true ∧ ∀ scope, (text s scope).selects v = true := by
  refine ⟨selects_description_iff.2 h, fun scope => ?_⟩
  cases scope with
  | description => exact selects_text_description_iff.2 h
  | metadata => exact selects_metadata_iff.2 (.inl ⟨_, List.mem_cons_self, h⟩)

/-- A text that is found in every description in which it occurs settles its sigmas. -/
theorem isSettled_of_selects
    (h : ∀ v : View, s.toList <:+: v.transaction.description.toList →
      (text s .metadata).selects v = true) : IsSettled s.toList := by
  by_cases hsigma : 'Σ' ∈ s.toList
  · refine Text.isSettled_iff.2 fun t ht => ?_
    have hfound := h (.described (String.ofList t)) (by rwa [View.described, String.toList_ofList])
    rcases selects_metadata_iff.1 hfound with ⟨t', ht', hfound⟩ | hfound
    · obtain rfl : t' = String.ofList t := by simpa [View.texts, View.described] using ht'
      rwa [String.toList_ofList] at hfound
    · exact absurd hfound (not_infix_isoChars hsigma _)
  · exact Text.isSettled_of_notMem hsigma

/-- **A text that is there is found, if it settles its sigmas.**  The texts that settle them are
those that are found in every description in which they occur, by the question for a description and
by a free text, and those that a search in everything written finds in every text in which they
occur.  What occurs in the date is always found, and so is a text whose sigmas end words where it
occurs as they do in the text alone. -/
theorem finds_what_occurs (s : String) :
    (IsSettled s.toList ↔ ∀ v : View, s.toList <:+: v.transaction.description.toList →
      (ofFieldText .description s).selects v = true ∧ ∀ scope, (text s scope).selects v = true) ∧
    (IsSettled s.toList ↔ ∀ v : View, ∀ t ∈ v.texts, s.toList <:+: t.toList →
      (text s .metadata).selects v = true) ∧
    (∀ v : View, s.toList <:+: v.transaction.date.isoChars → (text s .metadata).selects v = true) ∧
    ∀ (v : View) (before after : List Char), EndsWordsAlike s.toList [] [] before.reverse after →
      (v.transaction.description.toList = before ++ s.toList ++ after →
        (ofFieldText .description s).selects v = true ∧ ∀ scope, (text s scope).selects v = true) ∧
      ∀ t ∈ v.texts, t.toList = before ++ s.toList ++ after →
        (text s .metadata).selects v = true := by
  refine ⟨⟨fun h v hv => ?_, fun h => ?_⟩,
    ⟨fun h v t ht hocc => ?_, fun h => ?_⟩, fun v hv => ?_, ?_⟩
  · exact selects_of_infix_lowercaseChars (h.infix_lowercaseChars hv)
  · exact isSettled_of_selects fun v hv => (h v hv).2 .metadata
  · exact selects_metadata_iff.2 (.inl ⟨t, ht, h.infix_lowercaseChars hocc⟩)
  · exact isSettled_of_selects fun v hv => h v _ List.mem_cons_self hv
  · refine selects_metadata_iff.2 (.inr ?_)
    rwa [lowercaseChars_of_infix_isoChars hv]
  · intro v before after halike
    have hinfix := Text.infix_lowercaseChars_of_endsWordsAlike halike
    refine ⟨fun hv => selects_of_infix_lowercaseChars (hv ▸ hinfix), fun t ht htext => ?_⟩
    exact selects_metadata_iff.2 (.inl ⟨t, ht, htext ▸ hinfix⟩)

/-- A piece from the middle of a word is found, and so are the month and a part of the day. -/
theorem finds_what_occurs_kosmos :
    "ΟΣΜ".toList <:+: (View.described "ΚΟΣΜΟΣ").transaction.description.toList ∧
    (ofFieldText .description "ΟΣΜ").selects (.described "ΚΟΣΜΟΣ") = true ∧
    "01-0".toList <:+: (View.described "ΚΟΣΜΟΣ").transaction.date.isoChars ∧
    (text "01-0" .metadata).selects (.described "ΚΟΣΜΟΣ") = true := by
  have hpiece : "ΟΣΜ".toList <:+: (View.described "ΚΟΣΜΟΣ").transaction.description.toList :=
    ⟨"Κ".toList, "ΟΣ".toList, rfl⟩
  have hdate : "01-0".toList <:+: (View.described "ΚΟΣΜΟΣ").transaction.date.isoChars :=
    ⟨"-262143-".toList, "1".toList, by decide⟩
  have hsettled : IsSettled "ΟΣΜ".toList := by decide +kernel
  exact ⟨hpiece, ((finds_what_occurs "ΟΣΜ").1.1 hsettled _ hpiece).1, hdate,
    (finds_what_occurs "01-0").2.2.1 _ hdate⟩

/-- **A text that is there and is not found:** at the end of the text alone the sigma ends a word,
and in the description it does not. -/
theorem misses_beginning_of_kosmos :
    "ΚΟΣ".toList <:+: (View.described "ΚΟΣΜΟΣ").transaction.description.toList ∧
    parseSearch "ΚΟΣ" = some (.text "ΚΟΣ" .metadata) ∧
    (ofFieldText .description "ΚΟΣ").selects (.described "ΚΟΣΜΟΣ") = false ∧
    ∀ scope, (text "ΚΟΣ" scope).selects (.described "ΚΟΣΜΟΣ") = false := by
  refine ⟨⟨[], "ΜΟΣ".toList, rfl⟩, by cbv, by decide +kernel, fun scope => ?_⟩
  cases scope <;> decide +kernel

end Filter

end Coffer
