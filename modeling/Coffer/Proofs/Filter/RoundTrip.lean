/-
**Reading a canonical text back.**

The text of a filter that can be written is read strictly, and what is read is the normal form of
the filter, with the meaning of its free texts settled.  The text of a part, in parentheses if it
needs them, adds the terms of the part to the branch that is being read; so no part runs into the
next one and no mix of inner nodes is grouped anew.

Every filter that comes from a text, read strictly or for a search, is in normal form and settled
already, and so it is read back as it is.

Main results:

* `Coffer.Filter.exists_tokens_of_groupChars` — the induction over the filter;
* `Coffer.Filter.canonical_keeps_meaning` — **a canonical text means what its filter means;**
* `Coffer.Filter.parseSearch_round_trip` — **every filter that is read is read back.**
-/

import Coffer.Filter.Expression
import Coffer.Proofs.Filter.Reading

set_option autoImplicit false

namespace Coffer.Filter

/-! ### Parts -/

/-- Reading the text of a part, in parentheses if it needs them, adds its terms. -/
def PartReads (f : Filter) : Prop :=
  ∃ ts, Token.scan (groupChars f f.chars) = .ok ts ∧
    ReadsTerms ts (spliceAll (flatten (f.withScope .description)))

/-- The terms of a filter that can be written are one branch, or the branches that it splices in. -/
theorem ReadsTerms.readsBranches_flatten {ts : List Token} {f : Filter} (hf : f.IsWritten)
    (h : ReadsTerms ts (spliceAll (flatten f))) : ReadsBranches ts (spliceAny (flatten f)) := by
  have hnormal := hf.isNormal_flatten
  have hjoin : joinAll (spliceAll (flatten f)) = flatten f := hnormal.join_splice .all
  have hbranches := h.readsBranches (hnormal.splice_ne_nil .all)
  rwa [hjoin] at hbranches

theorem ReadsTerms.ofTokens_eq {ts : List Token} {f : Filter} (hf : f.IsWritten)
    (h : ReadsTerms ts (spliceAll (flatten f))) : ofTokens ts = .ok (some (flatten f)) := by
  have hjoin : joinAny (spliceAny (flatten f)) = flatten f := hf.isNormal_flatten.join_splice .any
  rw [(h.readsBranches_flatten hf).ofTokens_eq, hjoin]

/-- Reading parts one after another. -/
theorem exists_tokens_of_blanks {parts : List Filter} (hne : parts ≠ [])
    (h : ∀ f ∈ parts, PartReads f) :
    ∃ ts, Token.scan (joinedChars [' '] parts) = .ok ts ∧
      ReadsTerms ts (flattenAll (withScopes .description parts)) := by
  induction parts with
  | nil => exact absurd rfl hne
  | cons f rest ih =>
      obtain ⟨ts, hscan, hreads⟩ := h f (by simp)
      cases rest with
      | nil =>
          refine ⟨ts, hscan, ?_⟩
          simpa [withScopes, flattenAll] using hreads
      | cons g rest =>
          obtain ⟨ts', hscan', hreads'⟩ := ih (by simp) fun f hf => h f (by simp [hf])
          refine ⟨ts ++ ts', ?_, ?_⟩
          · rw [joinedChars, List.append_assoc, List.singleton_append]
            exact Token.scan_append_blank hscan hscan'
          · rw [withScopes, flattenAll]
            exact hreads.append hreads'

/-- Reading parts with `OR` between them, each of which is a branch. -/
theorem exists_tokens_of_ors {parts : List Filter} (hne : parts ≠ [])
    (hwritten : ∀ f ∈ parts, f.IsWritten) (h : ∀ f ∈ parts, PartReads f) :
    ∃ ts, Token.scan (joinedChars [' ', 'O', 'R', ' '] parts) = .ok ts ∧
      ReadsBranches ts (flattenAny (withScopes .description parts)) := by
  induction parts with
  | nil => exact absurd rfl hne
  | cons f rest ih =>
      obtain ⟨ts, hscan, hreads⟩ := h f (by simp)
      have hbranches := hreads.readsBranches_flatten ((hwritten f (by simp)).withScope _)
      cases rest with
      | nil =>
          refine ⟨ts, hscan, ?_⟩
          simpa [withScopes, flattenAny] using hbranches
      | cons g rest =>
          obtain ⟨ts', hscan', hreads'⟩ := ih (by simp) (fun f hf => hwritten f (by simp [hf]))
            fun f hf => h f (by simp [hf])
          refine ⟨ts ++ .or :: ts', ?_, ?_⟩
          · rw [joinedChars, List.append_assoc]
            exact Token.scan_append_or hscan hscan'
          · rw [withScopes, flattenAny]
            exact hbranches.or hreads'

/-! ### The whole text -/

/-- **The text of every part adds the terms of its normal form.** -/
theorem exists_tokens_of_groupChars {f : Filter} (h : f.IsWritten) : PartReads f := by
  induction h with
  | @field p hp =>
      obtain ⟨name, value, isQuoted, hscan, hread⟩ := hp.isReadBack
      exact ⟨_, hscan, .field hread⟩
  | text s scope =>
      obtain ⟨t, hscan, ht⟩ := scan_textChars s.toList
      rw [String.ofList_toList] at ht
      refine ⟨[t], hscan, ?_⟩
      rcases ht with rfl | rfl
      · exact .word s
      · exact .quoted s
  | @all parts hne hparts ih =>
      obtain ⟨ts, hscan, hreads⟩ := exists_tokens_of_blanks hne ih
      have hnormal : ∀ f ∈ withScopes .description parts, (flatten f).IsNormal := by
        intro g hg
        rw [withScopes_eq] at hg
        obtain ⟨f, hf, rfl⟩ := List.mem_map.1 hg
        exact ((hparts f hf).withScope .description).isNormal_flatten
      have hsplice : spliceAll (flatten (.all (withScopes .description parts))) =
          flattenAll (withScopes .description parts) := by
        rw [flattenAll_eq]
        exact splice_flatten_node (k := .all) hnormal
      refine ⟨ts, hscan, ?_⟩
      rw [withScope, hsplice]
      exact hreads
  | @any parts hne hparts ih =>
      obtain ⟨ts, hscan, hreads⟩ := exists_tokens_of_ors hne hparts ih
      refine ⟨.leftParen :: ts ++ [.rightParen], ?_, ?_⟩
      · rw [groupChars, chars]
        exact Token.scan_parens hscan
      · rw [withScope, flatten]
        exact hreads.parens

/-- The text of a filter is a group of branches, without the parentheses. -/
theorem exists_tokens_of_chars {f : Filter} (h : f.IsWritten) :
    ∃ ts, Token.scan f.chars = .ok ts ∧
      ofTokens ts = .ok (some (flatten (f.withScope .description))) := by
  have hscope := h.withScope .description
  have hpart := exists_tokens_of_groupChars h
  cases h with
  | @any parts hne hparts =>
      obtain ⟨ts, hscan, hreads⟩ :=
        exists_tokens_of_ors hne hparts fun f hf => exists_tokens_of_groupChars (hparts f hf)
      exact ⟨ts, hscan, hreads.ofTokens_eq⟩
  | _ =>
      obtain ⟨ts, hscan, hreads⟩ := hpart
      exact ⟨ts, hscan, hreads.ofTokens_eq hscope⟩

/-- **A canonical text is read as the normal form.** -/
theorem parse_canonical {f : Filter} (h : f.IsWritten) :
    parse f.canonical = .ok (some (flatten f.reclassify)) := by
  obtain ⟨ts, hscan, hread⟩ := exists_tokens_of_chars h
  have hsettle : (flatten (f.withScope .description)).reclassify = flatten f.reclassify := by
    rw [reclassify_flatten, reclassify_withScope]
  rw [parse, canonical, String.toList_ofList, hscan]
  simp only [bind, Except.bind, hread, pure, Except.pure, Option.map_some, hsettle]

/-- **A canonical text means what its filter means:** it is read, and what is read selects the
transactions that the filter selects once its free texts are settled. -/
theorem canonical_keeps_meaning {f : Filter} (h : f.IsWritten) :
    parse f.canonical = .ok (some (flatten f.reclassify)) ∧
      ∀ v, (flatten f.reclassify).selects v = f.reclassify.selects v :=
  ⟨parse_canonical h, selects_flatten f.reclassify⟩

/-- Parts of parts are spliced in, single parts stand for their nodes, and texts that would be read
as something else are in quotes. -/
theorem canonical_keeps_meaning_nested :
    parse "desc:\"x y\" ((\"or\" OR \"\")) date:>=2024-03" =
      .ok (some (.all [.field ⟨.description, .equal, .text "x y"⟩,
        .any [.text "or" .description, .text "" .description],
        .field ⟨.date, .atLeast, .date ⟨⟨2024, 3, 1, by decide⟩, .month⟩⟩])) := by
  have hdesc : IsWritten (.field ⟨.description, .equal, .text "x y"⟩) :=
    .field (.text rfl (by decide))
  have hdate : IsWritten (.field ⟨.date, .atLeast, .date ⟨⟨2024, 3, 1, by decide⟩, .month⟩⟩) :=
    .field (.date (by decide))
  have hany : IsWritten (.any [.text "or" .metadata, .text "" .metadata]) :=
    .any (by simp) (by simp [IsWritten.text])
  have hall : IsWritten (.all [.all [.field ⟨.description, .equal, .text "x y"⟩],
      .any [.any [.text "or" .metadata, .text "" .metadata]],
      .field ⟨.date, .atLeast, .date ⟨⟨2024, 3, 1, by decide⟩, .month⟩⟩]) := by
    refine .all (by simp) fun f hf => ?_
    simp only [List.mem_cons, List.not_mem_nil, or_false] at hf
    rcases hf with rfl | rfl | rfl
    · exact .all (by simp) (by simpa using hdesc)
    · exact .any (by simp) (by simpa using hany)
    · exact hdate
  have htext : canonical (.all [.all [.field ⟨.description, .equal, .text "x y"⟩],
      .any [.any [.text "or" .metadata, .text "" .metadata]],
      .field ⟨.date, .atLeast, .date ⟨⟨2024, 3, 1, by decide⟩, .month⟩⟩]) =
        "desc:\"x y\" ((\"or\" OR \"\")) date:>=2024-03" := by
    decide
  rw [← htext]
  exact (canonical_keeps_meaning hall).1

/-! ### Filters that are read -/

/-- A filter that is read can be written, and is in normal form and settled. -/
theorem isWritten_of_parse {s : String} {f : Filter} (h : parse s = .ok (some f)) :
    f.IsWritten ∧ flatten f.reclassify = f := by
  obtain ⟨ts, -, h⟩ := Except.of_bind_eq_ok h
  obtain ⟨tree, hread, h⟩ := Except.of_bind_eq_ok h
  cases tree with
  | none => cases h
  | some g =>
      obtain rfl : g.reclassify = f := by simpa [pure, Except.pure] using h
      unfold ofTokens at hread
      split at hread
      · cases hread
      · obtain ⟨_, hread, heq⟩ := Except.of_map_eq_ok hread
        cases heq
        have hg := isRead_of_readTokens Level.isRead_empty (by simp) hread
        refine ⟨hg.written.withScope _, ?_⟩
        rw [reclassify_reclassify, ← reclassify_flatten, flatten_eq_self hg.normal]

/-- What rules and targets are bound to is a filter that is read. -/
theorem parse_of_parseBound {s : String} {f : Filter} (h : parseBound s = .ok f) :
    parse s = .ok (some f) := by
  unfold parseBound at h
  split at h
  · next hparse => cases h; exact hparse
  · cases h
  · cases h

/-- So is a filter that searches for a whole text. -/
theorem isWritten_of_wholeText {s : String} {f : Filter} (h : wholeText s = some f) :
    f.IsWritten ∧ flatten f.reclassify = f := by
  unfold wholeText at h
  split at h
  · cases h
  · cases h
    exact ⟨.text _ _, rfl⟩

theorem isWritten_of_parseSearch {s : String} {f : Filter} (h : parseSearch s = some f) :
    f.IsWritten ∧ flatten f.reclassify = f := by
  unfold parseSearch at h
  split at h
  · next hread =>
      rw [h] at hread
      exact isWritten_of_parse hread
  · exact isWritten_of_wholeText h

/-- Only a text of blanks is no filter. -/
theorem isBlank_of_parse_eq_none {s : String} (h : parse s = .ok none) :
    ∀ c ∈ s.toList, Text.isBlank c = true := by
  obtain ⟨ts, hscan, h⟩ := Except.of_bind_eq_ok h
  obtain ⟨tree, hread, h⟩ := Except.of_bind_eq_ok h
  cases tree with
  | some g => cases h
  | none =>
      unfold ofTokens at hread
      split at hread
      · next hts =>
          rw [List.isEmpty_iff.1 hts] at hscan
          exact Token.isBlank_of_scan_eq_nil hscan
      · obtain ⟨_, -, heq⟩ := Except.of_map_eq_ok hread
        cases heq

theorem isBlank_of_parseSearch_eq_none {s : String} (h : parseSearch s = none) :
    ∀ c ∈ s.toList, Text.isBlank c = true := by
  unfold parseSearch at h
  split at h
  · next hread =>
      rw [h] at hread
      exact isBlank_of_parse_eq_none hread
  · unfold wholeText at h
    split at h
    · next htrim => exact Text.trimChars_eq_nil_iff.1 htrim
    · cases h

/-- **Every filter that is read for a search is read back,** strictly and as it is, and its text
stays the same; only a text of blanks is no filter. -/
theorem parseSearch_round_trip (s : String) :
    match parseSearch s with
    | some f =>
      parse f.canonical = .ok (some f) ∧
        (parse f.canonical).map (Option.map canonical) = .ok (some f.canonical)
    | none => ∀ c ∈ s.toList, Text.isBlank c = true := by
  cases h : parseSearch s with
  | none => exact isBlank_of_parseSearch_eq_none h
  | some f =>
      obtain ⟨hwritten, hself⟩ := isWritten_of_parseSearch h
      have hparse := parse_canonical hwritten
      rw [hself] at hparse
      dsimp only
      rw [hparse]
      exact ⟨rfl, rfl⟩

end Coffer.Filter
