/-
**The date of a new transaction is the one that is written.**

A date is given as year, month and day with hyphens between them, or as month, day and year with
slashes.  No text is read in both forms, and the text of the second form is kept beside the date.
The date that is stored and read back is the one that the numbers of the text name.  A year in fewer
than four digits is taken as it stands, so that `05/01/24` is a day of the year 24; a year from 1000
on always has its four digits.

Main results:

* `Coffer.Command.readDate_eq_ok_iff` — the texts that are accepted as a date;
* `Coffer.Command.exists_shows_of_addTransaction` — the date of a new transaction is read back;
* `Coffer.Command.dates_as_written` — **what is accepted, what is stored of it, and what is read
  back.**
-/

import Coffer.Proofs.Calendar.DateForms
import Coffer.Proofs.Command.WellFormed

set_option autoImplicit false

namespace Coffer

open Coffer.Span (IsNumeral value)

namespace Store

variable {s s' : Store} {i : Int} {p : Posting}

theorem transactions_withNames (s : Store) (account category : Option String) :
    (s.withNames account category).transactions = s.transactions := by
  have haccount : (s.withAccount account).2.transactions = s.transactions := by
    cases account with
    | none => rfl
    | some name => exact sameBut_ensureAccount name s .transactions (by simp)
  rw [← haccount]
  cases category with
  | none => rfl
  | some name =>
    exact sameBut_ensureCategory name 0 none (s.withAccount account).2 .transactions (by simp)

/-- A new transaction gets an id that none has. -/
theorem hasTransaction_of_addTransaction (h : s.addTransaction p = .ok (i, s')) :
    s.hasTransaction i = false := by
  obtain ⟨amount, -, h⟩ := Except.of_bind_eq_ok h
  obtain ⟨-, -, h⟩ := Except.of_bind_eq_ok h
  obtain ⟨-, -, h⟩ := Except.of_bind_eq_ok h
  cases h
  refine List.any_eq_false.2 fun r hr hid =>
    freshId_notMem (s.transactions.map TransactionRow.id) ?_
  rw [← eq_of_beq hid]
  exact List.mem_map_of_mem hr

end Store

namespace Command

open Coffer.DateLayout (Numeral Spells iso slashed InUse inDigits spells_inDigits)
open Coffer.Store (SameBut)

variable {text out name : String} {d : Date} {raw : Option String} {w : Bool}
  {s t : Store} {e : Entry}

/-! ### The texts that are accepted -/

/-- **The texts that are accepted as a date:** those of a date in writing, in one of the two forms,
and the text is kept in the second form only. -/
theorem readDate_eq_ok_iff : readDate text = .ok (d, raw) ↔ ∃ ns, Spells ns d ∧
    (text.toList = iso.chars ns ∧ raw = none ∨
      text.toList = slashed.chars ns ∧ raw = some text) := by
  unfold readDate
  split
  · next d' hd' =>
      obtain ⟨ns, hns, hchars⟩ := (DateLayout.read_eq_ok_iff (.inl rfl)).1 hd'
      constructor
      · rintro ⟨⟩
        exact ⟨ns, hns, .inl ⟨hchars, rfl⟩⟩
      · rintro ⟨ms, hms, ⟨hiso, rfl⟩ | ⟨hslashed, -⟩⟩
        · have hd := (DateLayout.read_eq_ok_iff (.inl rfl)).2 ⟨ms, hms, hiso⟩
          rw [Except.ok.inj (hd'.symm.trans hd)]
        · exact absurd (hchars.symm.trans hslashed) (hns.chars_ne ms)
  · next x hx =>
      have hnone : ∀ ns, Spells ns d → text.toList ≠ iso.chars ns := by
        intro ns hns hiso
        cases hx.symm.trans ((DateLayout.read_eq_ok_iff (.inl rfl)).2 ⟨ns, hns, hiso⟩)
      constructor
      · intro h
        obtain ⟨d', hd', ⟨⟩⟩ := Except.of_map_eq_ok h
        obtain ⟨ns, hns, hchars⟩ := (DateLayout.read_eq_ok_iff (.inr rfl)).1 hd'
        exact ⟨ns, hns, .inr ⟨hchars, rfl⟩⟩
      · rintro ⟨ns, hns, ⟨hiso, -⟩ | ⟨hslashed, rfl⟩⟩
        · exact absurd hiso (hnone ns hns)
        · rw [(DateLayout.read_eq_ok_iff (.inr rfl)).2 ⟨ns, hns, hslashed⟩]
          rfl

/-! ### What is stored -/

/-- To attach a tag writes to no other table than those of tags. -/
theorem sameBut_of_attachTagNamed {i : Int} {x : Unit}
    (h : Steps.outcome ((attachTagNamed i name).run true) s = (.ok x, t)) :
    SameBut [.tags, .links] s t := by
  obtain ⟨g, u, htag, hattach⟩ := Action.outcome_bind_eq_ok_iff.1 h
  cases (outcome_tagId name none s).symm.trans htag
  obtain ⟨-, hattach⟩ := Action.outcome_carry_eq_ok_iff.1 hattach
  have htags := Store.sameBut_ensureTag name none s
  exact (htags.mono (by simp)).trans ((Store.sameBut_attachTag hattach).mono (by simp))

/-- Nor does it to attach some. -/
theorem sameBut_of_attachTags {i : Int} {names : List String} {x : PUnit}
    (h : Steps.outcome ((names.forM (attachTagNamed i)).run true) s = (.ok x, t)) :
    SameBut [.tags, .links] s t := by
  induction names generalizing s with
  | nil =>
      cases h
      exact .refl _ _
  | cons name rest ih =>
      obtain ⟨y, u, hone, hrest⟩ := Action.outcome_bind_eq_ok_iff.1 h
      exact (sameBut_of_attachTagNamed hone).trans (ih hrest)

/-- A new transaction that is accepted is entered with the date that is read, and its tags leave it
as it is. -/
theorem of_outcome_addTransaction (h : Steps.outcome ((addTransaction e).run w) s = (.ok out, t)) :
    w = true ∧ ∃ d i u, readDate e.date = .ok d ∧
      (s.withNames e.account e.category).addTransaction (e.posting d s) = .ok (i, u) ∧
      SameBut [.tags, .links] u t := by
  obtain ⟨d, s₁, hdate, h⟩ := Action.outcome_bind_eq_ok_iff.1 h
  obtain ⟨account, s₂, haccount, h⟩ := Action.outcome_bind_eq_ok_iff.1 h
  obtain ⟨category, s₃, hcategory, h⟩ := Action.outcome_bind_eq_ok_iff.1 h
  obtain ⟨i, u, hadd, h⟩ := Action.outcome_bind_eq_ok_iff.1 h
  obtain ⟨x, t', htags, hprint⟩ := Action.outcome_bind_eq_ok_iff.1 h
  obtain ⟨-, rfl⟩ := Action.outcome_pure_eq_ok_iff.1 hprint
  obtain ⟨rfl, hwrite⟩ := Action.outcome_attempt_eq_ok_iff.1 hadd
  rw [outcome_entryDate] at hdate
  split at hdate
  case h_2 => cases hdate
  case h_1 d' hread =>
    cases hdate
    cases (outcome_withName outcome_accountId e.account s).symm.trans haccount
    cases (outcome_withName (fun name => outcome_categoryId name 0 none) e.category
      (s.withAccount e.account).2).symm.trans hcategory
    exact ⟨rfl, d, i, u, hread, hwrite, sameBut_of_attachTags htags⟩

/-- When a new transaction is accepted. -/
theorem outcome_addTransaction_eq_ok_iff :
    (∃ out t, Steps.outcome ((addTransaction e).run w) s = (.ok out, t)) ↔
      w = true ∧ e.amount.isNaN = false ∧ ∃ d, readDate e.date = .ok d := by
  constructor
  · rintro ⟨out, t, h⟩
    obtain ⟨rfl, d, -, -, hread, -⟩ := of_outcome_addTransaction h
    refine ⟨rfl, ?_, d, hread⟩
    rcases outcome_addTransaction hread s with ⟨-, hrefused⟩ | ⟨hamount, -⟩
    · cases hrefused.symm.trans h
    · exact hamount
  · rintro ⟨rfl, hamount, d, hread⟩
    rcases outcome_addTransaction hread s with ⟨hnan, -⟩ | ⟨-, t, out, hadded⟩
    · rw [hamount] at hnan
      cases hnan
    · exact ⟨out, t, hadded⟩

/-- **The date of a new transaction is read back,** and so is the text that is kept with it. -/
theorem exists_shows_of_addTransaction {history : List Operation}
    (h : Steps.outcome ((addTransaction e).run w) (Store.empty.run history) = (.ok out, t)) :
    ∃ u, t.Shows u ∧ readDate e.date = .ok (u.date, u.dateRaw) ∧
      (Store.empty.run history).hasTransaction u.id = false := by
  obtain ⟨-, d, i, u, hread, hadd, htags⟩ := of_outcome_addTransaction h
  have hrow : t.row? i = some (Store.entered i (e.posting d (Store.empty.run history))) :=
    (Store.row?_sameBut htags (by simp)).trans (Store.row?_of_addTransaction hadd)
  have hsteps : Store.CheckedSteps (Store.empty.run history) t := by
    have hchecked := checked_addTransaction e w (Store.empty.run history)
    rwa [h] at hchecked
  obtain ⟨ops, rfl⟩ := hsteps.exists_run
  rw [← Store.run_append] at hrow ⊢
  refine ⟨_, Store.shows_of_row? (Store.sound_run _) (Store.named_run _) hrow rfl, hread, ?_⟩
  have hfresh := Store.hasTransaction_of_addTransaction hadd
  unfold Store.hasTransaction at hfresh ⊢
  rwa [Store.transactions_withNames] at hfresh

/-- A text that is read is accepted as the date of a transaction whose amount is a number. -/
theorem exists_shows_of_readDate (history : List Operation) (c : Setting) {d : Date × Option String}
    (hread : readDate e.date = .ok d) (hamount : e.amount.isNaN = false) :
    ∃ out t u, perform c (.addTransaction e) true (Store.empty.run history) = (.ok out, t) ∧
      t.Shows u ∧ u.date = d.1 ∧ u.dateRaw = d.2 := by
  obtain ⟨out, t, hout⟩ := outcome_addTransaction_eq_ok_iff.2 ⟨rfl, hamount, d, hread⟩
  obtain ⟨u, hu, hdate, -⟩ := exists_shows_of_addTransaction hout
  obtain rfl := Except.ok.inj (hread.symm.trans hdate)
  exact ⟨out, t, u, hout, hu, rfl, rfl⟩

/-- **Dates are stored as they are written.**  A text is accepted exactly if it is a date in
writing, in one of the two forms, which it is in one way only; the text itself is kept in the second
form.  The year has at least four digits if it is 1000 or later.  Digits alone are accepted if the
calendar has the date that they name, also if those of the year are fewer than four.  With such a
text a new transaction is accepted if its amount is a number, and it is read back with the date and
the text. -/
theorem dates_as_written (text : String) :
    (∀ d raw, readDate text = .ok (d, raw) ↔ ∃ ns, Spells ns d ∧
      (text.toList = iso.chars ns ∧ raw = none ∨
        text.toList = slashed.chars ns ∧ raw = some text)) ∧
    (∀ l l' ns ns' d d', InUse l → InUse l' → Spells ns d → Spells ns' d' →
      text.toList = l.chars ns → text.toList = l'.chars ns' → l = l' ∧ ns = ns' ∧ d = d') ∧
    (∀ ns d, Spells ns d → 1000 ≤ d.year → 4 ≤ (ns .year).digits.length) ∧
    (∀ ys ms ks (d : Date), IsNumeral 1 4 ys → IsNumeral 1 2 ms → IsNumeral 1 2 ks →
      d.year = value ys → d.month = value ms → d.day = value ks →
      (text.toList = ys ++ '-' :: (ms ++ '-' :: ks) → readDate text = .ok (d, none)) ∧
      (text.toList = ms ++ '/' :: (ks ++ '/' :: ys) → readDate text = .ok (d, some text))) ∧
    ∀ history c (e : Entry) w, e.date = text →
      ((∃ out t, perform c (.addTransaction e) w (Store.empty.run history) = (.ok out, t)) ↔
        w = true ∧ e.amount.isNaN = false ∧ ∃ d, readDate text = .ok d) ∧
      ∀ out t, perform c (.addTransaction e) w (Store.empty.run history) = (.ok out, t) →
        ∃ u, t.Shows u ∧ readDate text = .ok (u.date, u.dateRaw) ∧
          (Store.empty.run history).hasTransaction u.id = false := by
  refine ⟨fun d raw => readDate_eq_ok_iff, ?_, fun ns d hns => hns.four_le_length, ?_, ?_⟩
  · intro l l' ns ns' d d' hl hl' hns hns' hchars hchars'
    exact hl.chars_injective hl' hns hns' (hchars.symm.trans hchars')
  · intro ys ms ks d hys hms hks hyear hmonth hday
    have hspells := spells_inDigits hys hms hks hyear hmonth hday
    exact ⟨fun h => readDate_eq_ok_iff.2 ⟨_, hspells, .inl ⟨h, rfl⟩⟩,
      fun h => readDate_eq_ok_iff.2 ⟨_, hspells, .inr ⟨h, rfl⟩⟩⟩
  · rintro history c e w rfl
    exact ⟨outcome_addTransaction_eq_ok_iff, fun out t h => exists_shows_of_addTransaction h⟩

/-- A transaction on a date. -/
def latte (date : String) : Entry := ⟨date, -12, "LATTE", none, none, []⟩

/-- A month and a day without their zeros, and a transaction on that date. -/
theorem dates_as_written_january :
    readDate "1/5/2024" = .ok (⟨2024, 1, 5, by decide⟩, some "1/5/2024") ∧
    (∀ ns d, Spells ns d → "1/5/2024".toList = slashed.chars ns →
      ns = inDigits "2024".toList "1".toList "5".toList) ∧
    ∃ out t u, perform usual (.addTransaction (latte "1/5/2024")) true Store.empty = (.ok out, t) ∧
      t.Shows u ∧ u.date = ⟨2024, 1, 5, by decide⟩ ∧ u.dateRaw = some "1/5/2024" := by
  obtain ⟨-, honly, -, hdigits, hadd⟩ := dates_as_written "1/5/2024"
  have hys : IsNumeral 1 4 "2024".toList := ⟨List.all_eq_true.1 rfl, by decide, by decide⟩
  have hms : IsNumeral 1 2 "1".toList := ⟨List.all_eq_true.1 rfl, by decide, by decide⟩
  have hks : IsNumeral 1 2 "5".toList := ⟨List.all_eq_true.1 rfl, by decide, by decide⟩
  have hread : readDate "1/5/2024" = .ok (⟨2024, 1, 5, by decide⟩, some "1/5/2024") :=
    (hdigits "2024".toList "1".toList "5".toList ⟨2024, 1, 5, by decide⟩ hys hms hks
      rfl rfl rfl).2 rfl
  refine ⟨hread, fun ns d hns hchars => ?_, ?_⟩
  · exact (honly _ _ _ _ d ⟨2024, 1, 5, by decide⟩ (.inr rfl) (.inr rfl) hns
      (spells_inDigits hys hms hks rfl rfl rfl) hchars rfl).2.1
  · obtain ⟨haccepted, hback⟩ := hadd [] usual (latte "1/5/2024") true rfl
    obtain ⟨out, t, hout⟩ := haccepted.2 ⟨rfl, by decide, _, hread⟩
    obtain ⟨u, hu, hdate, -⟩ := hback out t hout
    obtain ⟨hday, hraw⟩ := Prod.mk.inj (Except.ok.inj (hdate.symm.trans hread))
    exact ⟨out, t, u, hout, hu, hday, hraw⟩

/-- The year is written in two digits, and the date is stored as one of the first century. -/
theorem year_of_two_digits :
    "05/01/24".toList = slashed.chars (inDigits "24".toList "05".toList "01".toList) ∧
    readDate "05/01/24" = .ok (⟨24, 5, 1, by decide⟩, some "05/01/24") ∧
    ∃ out t u, perform usual (.addTransaction (latte "05/01/24")) true Store.empty = (.ok out, t) ∧
      t.Shows u ∧ u.date = ⟨24, 5, 1, by decide⟩ ∧ u.dateRaw = some "05/01/24" := by
  have hspells : Spells (inDigits "24".toList "05".toList "01".toList) ⟨24, 5, 1, by decide⟩ :=
    spells_inDigits ⟨List.all_eq_true.1 rfl, by decide, by decide⟩
      ⟨List.all_eq_true.1 rfl, by decide, by decide⟩ ⟨List.all_eq_true.1 rfl, by decide, by decide⟩
      rfl rfl rfl
  have hread := readDate_eq_ok_iff.2 ⟨_, hspells, .inr ⟨(rfl : "05/01/24".toList = _), rfl⟩⟩
  have hentry : readDate (latte "05/01/24").date = .ok (⟨24, 5, 1, by decide⟩, some "05/01/24") :=
    hread
  exact ⟨rfl, hread, exists_shows_of_readDate [] usual hentry (by decide)⟩

end Command

end Coffer
