/-
**Filters that leave nothing out.**

Rules and targets are bound to filters, and what they are bound to should leave some transactions
out. Almost every leaf of a filter that is read does: a text that is asked for is missing in a
transaction about which nothing is written, no amount reaches the infinities, and the calendar has
years before and after the years of four digits.

Two leaves leave nothing out.  The empty text, which can be written in quotes, occurs in every
description, and a lone hyphen that is searched for in everything written about a transaction occurs
in its date.  A filter that is read from a text without `OR` selects what all of its leaves select,
so it leaves nothing out exactly if it has only such leaves.

Main definitions:

* `Coffer.Filter.IsFoundAnywhere` — the empty text, and the hyphen in everything that is written;
* `Coffer.Filter.LeavesOut` — whether a filter leaves a transaction out.

Main results:

* `Coffer.Predicate.IsWritten.leavesOut` — **every predicate that can be written leaves something
  out;**
* `Coffer.Filter.selects_eq_all_leaves` — without `OR`, all leaves have to select;
* `Coffer.Filter.leavesOut_of_parseBound` — **what is left out by the filters that rules and targets
  are bound to.**
-/

import Coffer.Proofs.Filter.Together
import Coffer.Proofs.Number.Order
import Coffer.Proofs.Text.Lowercase

set_option autoImplicit false

namespace Coffer

/-! ### Years without four digits -/

namespace Date

/-- A day before the years of four digits. -/
def beforeAll : Date := ⟨-1, 1, 1, by decide⟩

/-- A day after the years of four digits. -/
def afterAll : Date := ⟨10000, 1, 1, by decide⟩

end Date

namespace Span

/-- A span ends in the year in which it starts. -/
theorem year_last (s : Span) : s.last.year = s.start.year := by
  have hof {month day : Nat} : ((Date.of? s.start.year month day).getD s.start).year =
      s.start.year := by
    cases hdate : Date.of? s.start.year month day with
    | none => rfl
    | some d => exact (Date.of?_eq_some_iff.1 hdate).1
  unfold last
  split
  · exact hof
  · unfold Date.lastOfMonth
    split
    · rfl
    · exact hof
  · rfl

/-- A span that can be written lies between the years without four digits. -/
theorem IsWritten.between {s : Span} (h : s.IsWritten) :
    (Date.beforeAll < s.start ∧ Date.beforeAll < s.last) ∧
      s.start < Date.afterAll ∧ s.last < Date.afterAll := by
  have hbefore : Date.beforeAll.year < s.start.year := lt_of_lt_of_le (by decide) h.nonneg
  have hafter : s.start.year < Date.afterAll.year := lt_of_le_of_lt h.le (by decide)
  have hlast := s.year_last
  exact ⟨⟨Date.lt_of_year_lt hbefore, Date.lt_of_year_lt (hlast ▸ hbefore)⟩,
    Date.lt_of_year_lt hafter, Date.lt_of_year_lt (hlast ▸ hafter)⟩

end Span

/-! ### A transaction about which nothing is written -/

/-- A transaction with a date and an amount, about which nothing is written. -/
def View.bare (d : Date) (x : Float) : View where
  transaction := ⟨⟨none, d, none, "", x, none⟩, 0⟩
  tags := []
  category := none
  account := none

/-! ### Predicates -/

namespace Comparison

variable (c : Comparison)

/-- No comparison with a span holds of all days. -/
theorem exists_not_testDate {s : Span} (h : s.IsWritten) : ∃ d, c.testDate s d = false := by
  obtain ⟨⟨hbefore, hbefore'⟩, hafter, hafter'⟩ := h.between
  rw [Date.lt_def] at hbefore hbefore' hafter hafter'
  cases c with
  | equal =>
      refine ⟨Date.beforeAll, Bool.eq_false_iff.2 fun hholds => ?_⟩
      have hstart := Date.le_def.1 (Span.holds_eq_true_iff.1 hholds).1
      omega
  | greater => exact ⟨Date.beforeAll, decide_eq_false fun hlt => by rw [Date.lt_def] at hlt; omega⟩
  | atLeast => exact ⟨Date.beforeAll, decide_eq_false fun hle => by rw [Date.le_def] at hle; omega⟩
  | less => exact ⟨Date.afterAll, decide_eq_false fun hlt => by rw [Date.lt_def] at hlt; omega⟩
  | atMost => exact ⟨Date.afterAll, decide_eq_false fun hle => by rw [Date.le_def] at hle; omega⟩

/-- No comparison with a finite amount holds of all amounts. -/
theorem exists_not_testAmount {x : Float} (h : Binary64.magnitude x < Binary64.infinity) :
    ∃ y : Float, y.isNaN = false ∧ c.testAmount x y = false := by
  have hinf : Binary64.inf.isNaN = false := rfl
  have hnegInf : Binary64.negInf.isNaN = false := rfl
  cases c with
  | equal => exact ⟨_, hinf, decide_eq_false Binary64.not_abs_inf_sub_lt⟩
  | greater => exact ⟨_, hnegInf, decide_eq_false Binary64.not_lt_negInf⟩
  | atLeast => exact ⟨_, hnegInf, decide_eq_false (Binary64.not_le_negInf h)⟩
  | less => exact ⟨_, hinf, decide_eq_false Binary64.not_inf_lt⟩
  | atMost => exact ⟨_, hinf, decide_eq_false (Binary64.not_inf_le h)⟩

end Comparison

namespace Filter

/-- **Whether a filter leaves a transaction out** whose amount is a number. -/
def LeavesOut (f : Filter) : Prop :=
  ∃ v : View, v.transaction.amount.isNaN = false ∧ f.selects v = false

end Filter

/-- **Every predicate that can be written leaves something out.** -/
theorem Predicate.IsWritten.leavesOut {p : Predicate} (h : p.IsWritten) :
    (Filter.field p).LeavesOut := by
  have hzero : (0 : Float).isNaN = false := rfl
  cases h with
  | @text f s hf hs =>
      refine ⟨.bare .min 0, hzero, ?_⟩
      cases f with
      | description =>
          -- what is asked for would have to be empty
          have hne : Text.lowercaseChars s.toList ≠ [] := by
            rw [ne_eq, Text.lowercaseChars_eq_nil_iff, String.toList_eq_nil_iff]
            exact hs
          refine Bool.eq_false_iff.2 fun hoccurs => hne ?_
          exact List.infix_nil.1 (Text.occurs_eq_true_iff.1 hoccurs)
      | category => rfl
      | account => rfl
      | tag => rfl
      | date => cases hf
      | amount => cases hf
  | @date c s hs =>
      obtain ⟨d, hd⟩ := c.exists_not_testDate hs
      exact ⟨.bare d 0, hzero, hd⟩
  | @amount c x hx =>
      obtain ⟨y, hy, htest⟩ := c.exists_not_testAmount hx
      exact ⟨.bare .min y, hy, htest⟩
  | @dateRange low high hlow hhigh hrange =>
      refine ⟨.bare .beforeAll 0, hzero, ?_⟩
      have hbefore := Date.lt_def.1 hlow.between.1.1
      have hout : ¬ low.start ≤ Date.beforeAll := by
        rw [Date.le_def]
        omega
      show (decide (low.start ≤ Date.beforeAll) && _) = false
      rw [decide_eq_false hout, Bool.false_and]
  | @amountRange low high hlow hhigh hrange =>
      refine ⟨.bare .min Binary64.negInf, rfl, ?_⟩
      show (decide (low ≤ Binary64.negInf) && _) = false
      rw [decide_eq_false (Binary64.not_le_negInf hlow), Bool.false_and]

namespace Filter

variable {f leaf : Filter} {s text : String} {scope : TextScope}

/-! ### Free texts -/

/-- **The texts that are found in every transaction:** the empty text, and a hyphen that is searched
for in everything written about it. -/
inductive IsFoundAnywhere : Filter → Prop
  | empty (scope : TextScope) : IsFoundAnywhere (.text "" scope)
  | hyphen : IsFoundAnywhere (.text "-" .metadata)

theorem findsText_empty (scope : TextScope) (v : View) : findsText "" scope v = true := by
  have hempty : Text.lowercaseChars "".toList = [] := rfl
  have hdescription : findsText "" .description v = true := by
    show Text.occurs (Text.lowercaseChars "".toList) _ = true
    rw [hempty, Text.occurs_eq_true_iff]
    exact List.nil_infix
  exact findsText_of_description hdescription scope

theorem occurs_hyphen_isoChars (d : Date) : Text.occurs ['-'] d.isoChars = true := by
  rw [Text.occurs_eq_true_iff, List.singleton_infix_iff]
  simp [Date.isoChars]

theorem IsFoundAnywhere.selects (h : f.IsFoundAnywhere) (v : View) : f.selects v = true := by
  cases h with
  | empty scope => exact findsText_empty scope v
  | hyphen =>
      show metadataHolds ['-'] v = true
      rw [metadataHolds, occurs_hyphen_isoChars, Bool.or_true]

/-- A day whose text has one digit only. -/
def onesDay : Date := ⟨1111, 11, 11, by decide⟩

/-- A day whose text does not have this digit. -/
def noOnesDay : Date := ⟨2000, 2, 2, by decide⟩

theorem isoChars_onesDay : onesDay.isoChars = "1111-11-11".toList := by decide

theorem isoChars_noOnesDay : noOnesDay.isoChars = "2000-02-02".toList := by decide

/-- What is found in the texts of both days is nothing but a hyphen. -/
theorem eq_of_infix_isoChars {needle : List Char} (hones : needle <:+: onesDay.isoChars)
    (hnoOnes : needle <:+: noOnesDay.isoChars) : needle = [] ∨ needle = ['-'] := by
  have honly : ∀ c ∈ onesDay.isoChars, c ∈ noOnesDay.isoChars → c = '-' := by
    rw [isoChars_onesDay, isoChars_noOnesDay]
    simp
  have hhyphen : ∀ c ∈ needle, c = '-' := fun c hc => honly c (hones.subset hc) (hnoOnes.subset hc)
  match needle with
  | [] => exact .inl rfl
  | [c] => exact .inr (by rw [hhyphen c (List.mem_singleton_self c)])
  | c :: d :: rest =>
      -- two hyphens do not follow one another in the text of a day
      have hc := hhyphen c (by simp)
      have hd := hhyphen d (by simp)
      subst hc hd
      have htwo : ['-', '-'] <:+: onesDay.isoChars :=
        List.IsInfix.trans ⟨[], rest, rfl⟩ hones
      exact absurd (Text.occurs_eq_true_iff.2 htwo) (by decide)

/-- In a transaction about which nothing is written a free text is found only in the date. -/
theorem findsText_bare_iff {d : Date} {x : Float} : findsText s scope (.bare d x) = true ↔
    s = "" ∨ scope = .metadata ∧ Text.lowercaseChars s.toList <:+: d.isoChars := by
  have hdescription : Text.holdsLower (Text.lowercaseChars s.toList) "" = true ↔ s = "" := by
    rw [Text.holdsLower, Text.occurs_eq_true_iff, ← String.toList_eq_nil_iff,
      ← Text.lowercaseChars_eq_nil_iff]
    exact List.infix_nil
  cases scope with
  | description => simp [findsText, View.bare, hdescription]
  | metadata =>
      simp [findsText, metadataHolds, View.bare, hdescription, Text.occurs_eq_true_iff]

/-- **Every free text but those leaves something out.** -/
theorem leavesOut_text (h : ¬ IsFoundAnywhere (.text s scope)) :
    (Filter.text s scope).LeavesOut := by
  by_contra hall
  have hzero : (0 : Float).isNaN = false := rfl
  have hfound (d : Date) : s = "" ∨
      scope = .metadata ∧ Text.lowercaseChars s.toList <:+: d.isoChars := by
    rw [← findsText_bare_iff (x := 0), ← Bool.not_eq_false]
    exact fun hmissed => hall ⟨.bare d 0, hzero, hmissed⟩
  have hne : s ≠ "" := by
    rintro rfl
    exact h (.empty scope)
  obtain ⟨rfl, hones⟩ := (hfound onesDay).resolve_left hne
  obtain ⟨-, hnoOnes⟩ := (hfound noOnesDay).resolve_left hne
  rcases eq_of_infix_isoChars hones hnoOnes with hneedle | hneedle
  · rw [Text.lowercaseChars_eq_nil_iff, String.toList_eq_nil_iff] at hneedle
    exact hne hneedle
  · rw [Text.lowercaseChars_eq_singleton_iff (by decide) (by decide)] at hneedle
    obtain rfl : s = "-" := String.toList_inj.1 hneedle
    exact h .hyphen

/-! ### Leaves -/

/-- The leaves of a filter that can be written are predicates that can be written, and free
texts. -/
theorem IsWritten.of_mem_leaves (h : f.IsWritten) (hleaf : leaf ∈ f.leaves) :
    (∃ p, leaf = .field p ∧ p.IsWritten) ∨ ∃ s scope, leaf = .text s scope := by
  induction f with
  | field p =>
      cases h with
      | field hp => exact .inl ⟨p, List.mem_singleton.1 hleaf, hp⟩
  | text s scope => exact .inr ⟨s, scope, List.mem_singleton.1 hleaf⟩
  | node k parts ih =>
      rw [leaves_node] at hleaf
      obtain ⟨g, hg, hleaf⟩ := List.mem_flatMap.1 hleaf
      exact ih g hg (h.of_node.2 g hg) hleaf

/-- **A leaf of a filter that can be written leaves something out unless it is found anywhere.** -/
theorem leavesOut_leaf_iff (h : f.IsWritten) (hleaf : leaf ∈ f.leaves) :
    leaf.LeavesOut ↔ ¬ leaf.IsFoundAnywhere := by
  constructor
  · rintro ⟨v, -, hmissed⟩ hfound
    exact Bool.false_ne_true (hmissed.symm.trans (hfound.selects v))
  · intro hnot
    obtain ⟨p, rfl, hp⟩ | ⟨s, scope, rfl⟩ := h.of_mem_leaves hleaf
    · exact hp.leavesOut
    · exact leavesOut_text hnot

theorem leaves_withScope (scope : TextScope) (f : Filter) :
    (f.withScope scope).leaves = f.leaves.map (withScope scope) := by
  induction f with
  | field p => rfl
  | text s _ => rfl
  | node k parts ih =>
      rw [withScope_node, leaves_node, leaves_node, List.flatMap_map, List.map_flatMap]
      exact List.flatMap_congr ih

/-! ### Texts without `OR` -/

/-- An expression without `OR` has one branch. -/
theorem Derives.eq_singleton {ts : List Token} {bs : List Filter} (h : Derives .expr ts bs)
    (hor : Token.or ∉ ts) : ∃ fs, bs = [.all fs] := by
  cases h with
  | alone _ => exact ⟨_, rfl⟩
  | or _ _ => exact absurd (List.mem_append_right _ (List.mem_cons_self ..)) hor

/-- Any of a single part is that part. -/
theorem selects_any_singleton (scope : TextScope) (f : Filter) (v : View) :
    ((Filter.any [f]).withScope scope).selects v = (f.withScope scope).selects v := by
  have hnode := selects_withScope_node scope .any [f] v
  rw [Kind.test_singleton] at hnode
  exact hnode

/-- **Without `OR` the parts of a phrase select what all of their leaves select.** -/
theorem Derives.all_selects_eq {p : Phrase} {ts : List Token} {fs : List Filter}
    (h : Derives p ts fs) (hor : Token.or ∉ ts) (scope : TextScope) (v : View) :
    (fs.all fun f => (f.withScope scope).selects v) =
      (fs.flatMap leaves).all fun leaf => (leaf.withScope scope).selects v := by
  induction h with
  | word s => rfl
  | quoted s => rfl
  | field hp => rfl
  | @parens ts bs h ih =>
      -- in parentheses too there is only one branch, so that any branch is all of them
      have hinner : Token.or ∉ ts := fun hmem => hor (by simp [hmem])
      obtain ⟨fs, rfl⟩ := h.eq_singleton hinner
      have hleaves : [Filter.any [.all fs]].flatMap leaves = [Filter.all fs].flatMap leaves := by
        simp [leaves, leavesOf_eq]
      rw [hleaves, ← ih hinner, List.all_cons, selects_any_singleton]
      rfl
  | single _ ih => exact ih hor
  | more _ _ ih ih' =>
      rw [List.mem_append, not_or] at hor
      rw [List.all_append, ih hor.1, ih' hor.2, List.flatMap_append, List.all_append]
  | @alone ts fs _ ih =>
      have hleaves : [Filter.all fs].flatMap leaves = fs.flatMap leaves := by
        simp [leaves, leavesOf_eq]
      rw [hleaves, ← ih hor, List.all_cons, List.all_nil, Bool.and_true]
      exact selects_withScope_node scope .all fs v
  | or _ _ _ _ => exact absurd (List.mem_append_right _ (List.mem_cons_self ..)) hor

/-- **A filter that is read from a text without `OR` selects what all of its leaves select.** -/
theorem selects_eq_all_leaves {ts : List Token} (h : parse text = .ok (some f))
    (hscan : Token.scan text.toList = .ok ts) (hor : Token.or ∉ ts) (v : View) :
    f.selects v = f.leaves.all (selects · v) := by
  obtain ⟨ts', bs, hscan', hbs, rfl⟩ := exists_derives_of_parse h
  rw [hscan] at hscan'
  cases hscan'
  -- whatever the free texts mean, they mean it in the leaves
  rw [reclassify]
  generalize (if (flatten (.any bs)).hasPredicate then TextScope.description else .metadata) = scope
  have hleaves : (Filter.any bs).leaves = bs.flatMap leaves := leaves_node .any bs
  rw [leaves_withScope, leaves_flatten, hleaves, List.all_map, ← flatten_withScope, selects_flatten]
  have hall := hbs.all_selects_eq hor scope v
  obtain ⟨fs, rfl⟩ := hbs.eq_singleton hor
  rw [selects_any_singleton]
  rw [List.all_cons, List.all_nil, Bool.and_true] at hall
  exact hall

/-- **What is left out by the filters that rules and targets are bound to.**  A leaf of such a
filter leaves something out unless it is found anywhere, and a filter that is read from a text
without `OR` leaves something out exactly if one of its leaves does. -/
theorem leavesOut_of_parseBound (h : parseBound text = .ok f) :
    (∀ leaf ∈ f.leaves, leaf.LeavesOut ↔ ¬ leaf.IsFoundAnywhere) ∧
    ∀ ts, Token.scan text.toList = .ok ts → Token.or ∉ ts →
      (f.LeavesOut ↔ ∃ leaf ∈ f.leaves, ¬ leaf.IsFoundAnywhere) := by
  have hparse := parse_of_parseBound h
  have hwritten := (isWritten_of_parse hparse).1
  refine ⟨fun leaf hleaf => leavesOut_leaf_iff hwritten hleaf, fun ts hscan hor => ?_⟩
  constructor
  · rintro ⟨v, -, hmissed⟩
    rw [selects_eq_all_leaves hparse hscan hor, List.all_eq_false] at hmissed
    obtain ⟨leaf, hleaf, hmissed⟩ := hmissed
    exact ⟨leaf, hleaf, fun hfound => hmissed (hfound.selects v)⟩
  · rintro ⟨leaf, hleaf, hnot⟩
    obtain ⟨v, hnumber, hmissed⟩ := (leavesOut_leaf_iff hwritten hleaf).2 hnot
    refine ⟨v, hnumber, ?_⟩
    rw [selects_eq_all_leaves hparse hscan hor, List.all_eq_false]
    exact ⟨leaf, hleaf, by simpa using hmissed⟩

/-- The empty text in quotes leaves nothing out, but the year beside it does. -/
theorem leavesOut_of_parseBound_emptyText :
    parseBound "\"\" date:2024" = .ok (.all [.text "" .description,
      .field ⟨.date, .equal, .date ⟨⟨2024, 1, 1, by decide⟩, .year⟩⟩]) ∧
    ¬ (Filter.text "" .description).LeavesOut ∧
    (Filter.all [.text "" .description,
      .field ⟨.date, .equal, .date ⟨⟨2024, 1, 1, by decide⟩, .year⟩⟩]).LeavesOut := by
  have hparse : parseBound "\"\" date:2024" = .ok (.all [.text "" .description,
      .field ⟨.date, .equal, .date ⟨⟨2024, 1, 1, by decide⟩, .year⟩⟩]) := by
    cbv
  have hscan : Token.scan "\"\" date:2024".toList =
      .ok [.quoted "", .field "date" "2024" false] := by
    cbv
  obtain ⟨hleaves, hwhole⟩ := leavesOut_of_parseBound hparse
  refine ⟨hparse, fun hout => ?_, (hwhole _ hscan (by simp)).2 ?_⟩
  · exact (hleaves _ (by simp [leaves, leavesOf])).1 hout (.empty _)
  · refine ⟨.field ⟨.date, .equal, .date ⟨⟨2024, 1, 1, by decide⟩, .year⟩⟩, ?_, ?_⟩
    · simp [leaves, leavesOf]
    · intro hfound
      cases hfound

/-- **Rules and targets can be bound to filters that leave nothing out:** the empty text in quotes,
and a lone hyphen. -/
theorem not_leavesOut_quotes :
    (parseBound "\"\"" = .ok (.text "" .metadata) ∧
      ∀ v, (Filter.text "" .metadata).selects v = true) ∧
    (parseBound "-" = .ok (.text "-" .metadata) ∧
      ∀ v, (Filter.text "-" .metadata).selects v = true) := by
  refine ⟨⟨by cbv, fun v => ?_⟩, ⟨by cbv, fun v => ?_⟩⟩
  · exact (IsFoundAnywhere.empty .metadata).selects v
  · exact IsFoundAnywhere.hyphen.selects v

end Filter

end Coffer
