/-
**Texts put together and filters put together.**

Two filter texts can be put into parentheses and written one behind the other, or with `OR` between
them.  The text that comes of it is read as the two filters put together.  What the first text ends
with is finished at its closing parenthesis, so each text is read into the tokens that it is read
into alone; between its parentheses a text is a term, whose parts are spliced in where they are of
the kind that is being read, as they are when filters are put together.

What the free texts mean is settled for each filter when it is read, and settled anew for the two
together: a predicate in one of them tells what is meant by the free texts of the other.

Main results:

* `Coffer.Filter.exists_derives_of_parse` — a text that is read is an expression of the grammar;
* `Coffer.Filter.reclassify_join_splice` — free texts are settled at the end, whatever they were
  before;
* `Coffer.Filter.parse_groups` — **reading texts put together is putting filters together.**
-/

import Coffer.Proofs.Filter.Acceptance
import Coffer.Proofs.Filter.RoundTrip

set_option autoImplicit false

namespace Coffer

namespace Token

variable {s s' : List Char} {ts ts' : List Token}

/-- The tokens of a text in parentheses. -/
def group (ts : List Token) : List Token := leftParen :: ts ++ [rightParen]

/-- Two texts in parentheses, one behind the other. -/
theorem scan_groups (h : scan s = .ok ts) (h' : scan s' = .ok ts') :
    scan ('(' :: s ++ [')'] ++ ' ' :: ('(' :: s' ++ [')'])) = .ok (group ts ++ group ts') :=
  scan_append_blank (scan_parens h) (scan_parens h')

/-- Two texts in parentheses with `OR` between them. -/
theorem scan_groups_or (h : scan s = .ok ts) (h' : scan s' = .ok ts') :
    scan ('(' :: s ++ [')'] ++ ' ' :: 'O' :: 'R' :: ' ' :: ('(' :: s' ++ [')'])) =
      .ok (group ts ++ or :: group ts') :=
  scan_append_or (scan_parens h) (scan_parens h')

end Token

namespace Filter

/-! ### Texts that are read -/

/-- **A text that is read is an expression of the grammar,** and is read as its normal form with the
meaning of its free texts settled. -/
theorem exists_derives_of_parse {s : String} {f : Filter} (h : parse s = .ok (some f)) :
    ∃ ts bs, Token.scan s.toList = .ok ts ∧ Derives .expr ts bs ∧
      f = (flatten (.any bs)).reclassify := by
  obtain ⟨ts, hscan, h⟩ := Except.of_bind_eq_ok h
  obtain ⟨tree, hread, h⟩ := Except.of_bind_eq_ok h
  cases tree with
  | none => cases h
  | some g =>
      cases h
      obtain ⟨bs, hbs, rfl⟩ := ofTokens_eq_some_iff.1 hread
      exact ⟨ts, bs, hscan, hbs, rfl⟩

theorem parse_of_ofTokens {s : String} {ts : List Token} {f : Filter}
    (hscan : Token.scan s.toList = .ok ts) (hread : ofTokens ts = .ok (some f)) :
    parse s = .ok (some f.reclassify) := by
  unfold parse
  rw [hscan]
  show (ofTokens ts >>= _) = _
  rw [hread]
  rfl

/-- **A text of one field term is read as its predicate,** or fails as the term does. -/
theorem parse_of_scan_field {s name value : String} {isQuoted : Bool}
    (h : Token.scan s.toList = .ok [.field name value isQuoted]) :
    parse s = (Predicate.read name value isQuoted).map fun p => some (.field p) := by
  unfold parse
  rw [h]
  show (ofTokens [.field name value isQuoted] >>= _) = _
  cases hread : Predicate.read name value isQuoted with
  | error e => simp [ofTokens, readTokens, hread, Except.map, bind, Except.bind]
  | ok p =>
      rw [(ReadsTerms.field hread).ofTokens_eq (f := .field p)
        (.field (Predicate.isWritten_of_read hread))]
      rfl

/-- The term of a field and a value that is one word is read as its predicate. -/
theorem parse_name_append (f : Field) {s : String} (h : ∀ c ∈ s.toList, Token.isWordChar c = true) :
    parse (f.name ++ ":" ++ s) = (Predicate.read f.name s false).map fun p => some (.field p) := by
  have hscan := Predicate.scan_name_append f h
  rw [String.ofList_toList] at hscan
  have htext : (f.name ++ ":" ++ s).toList = f.name.toList ++ ':' :: s.toList := by simp
  exact parse_of_scan_field (htext ▸ hscan)

/-- The term of an ordered field and two bounds is read as a range, wherever it is split. -/
theorem parse_range {f : Field} (hf : f.isOrdered = true) {low high : String}
    (hsign : startsWithSign low.toList = false)
    (hlow : ∀ c ∈ low.toList, Token.isWordChar c = true)
    (hhigh : ∀ c ∈ high.toList, Token.isWordChar c = true) :
    parse (f.name ++ ":" ++ low ++ ".." ++ high) =
      (Predicate.orderedValue f .equal (low.toList ++ '.' :: '.' :: high.toList)
        (Predicate.splitRange? (low.toList ++ '.' :: '.' :: high.toList))).map
          fun v => some (.field ⟨f, .equal, v⟩) := by
  have hrange : low ++ ".." ++ high = String.ofList (low.toList ++ '.' :: '.' :: high.toList) := by
    rw [← String.toList_inj]
    simp
  have hstart : startsWithSign (low.toList ++ '.' :: '.' :: high.toList) = false := by
    cases hchars : low.toList with
    | nil => rfl
    | cons c rest =>
        rw [hchars] at hsign
        exact hsign
  have hword : ∀ c ∈ (low ++ ".." ++ high).toList, Token.isWordChar c = true := by
    intro c hc
    rw [hrange, String.toList_ofList, List.mem_append, List.mem_cons, List.mem_cons] at hc
    rcases hc with hc | rfl | rfl | hc
    · exact hlow c hc
    · decide
    · decide
    · exact hhigh c hc
  have htext : f.name ++ ":" ++ low ++ ".." ++ high = f.name ++ ":" ++ (low ++ ".." ++ high) := by
    simp only [String.append_assoc]
  rw [htext, parse_name_append f hword, hrange, Predicate.read_ordered_plain hf (by simp) hstart]
  cases Predicate.orderedValue f .equal _ _ <;> rfl

/-- What is read is in normal form. -/
theorem isNormal_of_parse {s : String} {f : Filter} (h : parse s = .ok (some f)) : f.IsNormal := by
  obtain ⟨hwritten, hself⟩ := isWritten_of_parse h
  rw [← hself]
  exact (hwritten.withScope _).isNormal_flatten

/-! ### Two groups -/

section Groups

variable {ts ts' : List Token} {bs bs' : List Filter}

/-- A single part stands for its node. -/
theorem flatten_node_singleton (k : Kind) {f : Filter} (h : (flatten f).IsNormal) :
    flatten (k.node [f]) = flatten f := by
  have hparts : flattenParts k [f] = k.splice (flatten f) := List.append_nil _
  rw [flatten_node, hparts, h.join_splice]

theorem Derives.isNormal_flatten_any (h : Derives .expr ts bs) : (flatten (.any bs)).IsNormal :=
  (IsWritten.any h.ne_nil h.isWritten).isNormal_flatten

/-- Two groups one behind the other are the terms of a branch. -/
theorem Derives.groups (h : Derives .expr ts bs) (h' : Derives .expr ts' bs') :
    Derives .branch (Token.group ts ++ Token.group ts') [.any bs, .any bs'] :=
  .more (.parens h) (.single (.parens h'))

/-- Two groups with `OR` between them are the branches of an expression. -/
theorem Derives.groups_or (h : Derives .expr ts bs) (h' : Derives .expr ts' bs') :
    Derives .expr (Token.group ts ++ Token.or :: Token.group ts')
      [.all [.any bs], .all [.any bs']] :=
  .or (.single (.parens h)) (.alone (.single (.parens h')))

/-- Two groups are read as all of their parts. -/
theorem ofTokens_groups (h : Derives .expr ts bs) (h' : Derives .expr ts' bs') :
    ofTokens (Token.group ts ++ Token.group ts') =
      .ok (some (joinAll (spliceAll (flatten (.any bs)) ++ spliceAll (flatten (.any bs'))))) := by
  have hgroups := h.groups h'
  have hnormal : (flatten (.all [.any bs, .any bs'])).IsNormal :=
    (IsWritten.all hgroups.ne_nil hgroups.isWritten).isNormal_flatten
  have hflatten : flatten (.all [.any bs, .any bs']) =
      joinAll (spliceAll (flatten (.any bs)) ++ spliceAll (flatten (.any bs'))) := by
    simp [flatten, flattenAll]
  have hone : flatten (.any [.all [.any bs, .any bs']]) = flatten (.all [.any bs, .any bs']) :=
    flatten_node_singleton .any hnormal
  rw [(Derives.alone hgroups).ofTokens_eq, hone, hflatten]

/-- Two groups with `OR` between them are read as any of their parts. -/
theorem ofTokens_groups_or (h : Derives .expr ts bs) (h' : Derives .expr ts' bs') :
    ofTokens (Token.group ts ++ Token.or :: Token.group ts') =
      .ok (some (joinAny (spliceAny (flatten (.any bs)) ++ spliceAny (flatten (.any bs'))))) := by
  have hone : flatten (.all [.any bs]) = flatten (.any bs) :=
    flatten_node_singleton .all h.isNormal_flatten_any
  have htwo : flatten (.all [.any bs']) = flatten (.any bs') :=
    flatten_node_singleton .all h'.isNormal_flatten_any
  have hflatten : flatten (.any [.all [.any bs], .all [.any bs']]) =
      joinAny (spliceAny (flatten (.any bs)) ++ spliceAny (flatten (.any bs'))) := by
    rw [← hone, ← htwo]
    simp [flatten, flattenAny]
  rw [(h.groups_or h').ofTokens_eq, hflatten]

end Groups

/-! ### Free texts -/

/-- **Free texts are settled at the end,** whatever they were before. -/
theorem reclassify_join_splice (k : Kind) (f g : Filter) :
    (k.join (k.splice f.reclassify ++ k.splice g.reclassify)).reclassify =
      (k.join (k.splice f ++ k.splice g)).reclassify := by
  have hpredicate : (k.join (k.splice f.reclassify ++ k.splice g.reclassify)).hasPredicate =
      (k.join (k.splice f ++ k.splice g)).hasPredicate := by
    simp only [hasPredicate_join, List.any_append, any_hasPredicate_splice, reclassify,
      hasPredicate_withScope]
  have hscope (scope : TextScope) :
      (k.join (k.splice f.reclassify ++ k.splice g.reclassify)).withScope scope =
        (k.join (k.splice f ++ k.splice g)).withScope scope := by
    simp only [withScope_join, List.map_append, ← splice_withScope, reclassify, withScope_withScope]
  rw [reclassify, hpredicate, hscope, ← reclassify]

/-! ### Filters put together -/

theorem both_eq_some {f : Filter} (hf : f.IsNormal) (g : Filter) :
    both (some f) (some g) = some (joinAll (spliceAll f ++ spliceAll g)) := by
  have hne : spliceAll f ≠ [] := hf.splice_ne_nil .all
  simp [both, joinAll?, hne]

theorem anyOf_eq_some {f : Filter} (hf : f.IsNormal) (g : Filter) :
    anyOf [some f, some g] = some (joinAny (spliceAny f ++ spliceAny g)) := by
  have hne : spliceAny f ≠ [] := hf.splice_ne_nil .any
  simp [anyOf, joinAny?, hne]

/-- **Reading texts put together is putting filters together.** -/
theorem parse_groups {a b : String} {f g : Filter} (ha : parse a = .ok (some f))
    (hb : parse b = .ok (some g)) :
    (∃ h, both (some f) (some g) = some h ∧
      parse ("(" ++ a ++ ") (" ++ b ++ ")") = .ok (some h.reclassify)) ∧
    ∃ h, anyOf [some f, some g] = some h ∧
      parse ("(" ++ a ++ ") OR (" ++ b ++ ")") = .ok (some h.reclassify) := by
  have hnormal := isNormal_of_parse ha
  refine ⟨⟨_, both_eq_some hnormal g, ?_⟩, ⟨_, anyOf_eq_some hnormal g, ?_⟩⟩
  all_goals
    obtain ⟨ts, bs, hscan, hts, rfl⟩ := exists_derives_of_parse ha
    obtain ⟨ts', bs', hscan', hts', rfl⟩ := exists_derives_of_parse hb
  · have htext : ("(" ++ a ++ ") (" ++ b ++ ")").toList =
        '(' :: a.toList ++ [')'] ++ ' ' :: ('(' :: b.toList ++ [')']) := by
      simp
    rw [parse_of_ofTokens (htext ▸ Token.scan_groups hscan hscan') (ofTokens_groups hts hts')]
    exact congrArg (Except.ok ∘ some) (reclassify_join_splice .all _ _).symm
  · have htext : ("(" ++ a ++ ") OR (" ++ b ++ ")").toList =
        '(' :: a.toList ++ [')'] ++ ' ' :: 'O' :: 'R' :: ' ' :: ('(' :: b.toList ++ [')']) := by
      simp
    rw [parse_of_ofTokens (htext ▸ Token.scan_groups_or hscan hscan') (ofTokens_groups_or hts hts')]
    exact congrArg (Except.ok ∘ some) (reclassify_join_splice .any _ _).symm

/-- Alone, the first text asks for all that is written about a transaction; beside a predicate it
asks for the description.  Its branches stay one term in front of another term, and are spliced in
front of an `OR`. -/
theorem parse_groups_teaOrMilk :
    parse "tea OR \"or\"" = .ok (some (.any [.text "tea" .metadata, .text "or" .metadata])) ∧
    parse "cat:Drinks milk" =
      .ok (some (.all [.field ⟨.category, .equal, .text "Drinks"⟩, .text "milk" .description])) ∧
    parse "(tea OR \"or\") (cat:Drinks milk)" =
      .ok (some (.all [.any [.text "tea" .description, .text "or" .description],
        .field ⟨.category, .equal, .text "Drinks"⟩, .text "milk" .description])) ∧
    parse "(tea OR \"or\") OR (cat:Drinks milk)" =
      .ok (some (.any [.text "tea" .description, .text "or" .description,
        .all [.field ⟨.category, .equal, .text "Drinks"⟩, .text "milk" .description]])) := by
  have ha : parse "tea OR \"or\"" =
      .ok (some (.any [.text "tea" .metadata, .text "or" .metadata])) := by
    cbv
  have hb : parse "cat:Drinks milk" =
      .ok (some (.all [.field ⟨.category, .equal, .text "Drinks"⟩,
        .text "milk" .description])) := by
    cbv
  have htext : "(" ++ "tea OR \"or\"" ++ ") (" ++ "cat:Drinks milk" ++ ")" =
      "(tea OR \"or\") (cat:Drinks milk)" := by
    decide
  have htext' : "(" ++ "tea OR \"or\"" ++ ") OR (" ++ "cat:Drinks milk" ++ ")" =
      "(tea OR \"or\") OR (cat:Drinks milk)" := by
    decide
  obtain ⟨⟨f, hf, hparse⟩, ⟨g, hg, hparse'⟩⟩ := parse_groups ha hb
  cases hf
  cases hg
  rw [htext] at hparse
  rw [htext'] at hparse'
  exact ⟨ha, hb, hparse, hparse'⟩

end Filter

end Coffer
