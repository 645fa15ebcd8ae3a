/-
**What rules and targets stay bound to.**

A rule or a target names its saved filter by an id, and the id stays with it as long as it exists.
What the id stands for can change: when the filter is deleted, rules and targets bound to it fail,
but the id is free, and the next filter that is saved may get it.  Then they evaluate the text of
that filter.  This is the only way in which a rule or a target comes to another text.

Main definitions:

* `Coffer.Binder` — a rule or a target;
* `Coffer.Store.boundText?` — the text that a rule or a target is bound to in a store;
* `Coffer.Snapshot.Evaluates`, `Coffer.Snapshot.Fails` — what planning or reporting makes of it;
* `Coffer.Store.Issues` — in a run, a text is saved under an id.

Main results:

* `Coffer.Store.filterOf?_run` — rules and targets keep the id of their filter;
* `Coffer.Store.evaluates_of_snapshot` — every snapshot evaluates the text that is bound;
* `Coffer.Store.keeps_text_iff` — **the text stays the same exactly if its id is not issued with
  another one.**
-/

import Coffer.Proofs.Store.Bindings
import Coffer.Store.Snapshot
import Mathlib.Data.List.Induction

set_option autoImplicit false

namespace Coffer

/-! ### Bindings -/

/-- A rule or a target, by its id. -/
inductive Binder where
  | rule (id : Int)
  | target (id : Int)

/-- What is entered, under the given id, by an operation that enters a rule or a target; and the id
of the filter that it is bound to. -/
def Operation.enters? (id : Int) : Operation → Option (Binder × Int)
  | .addRule d => some (.rule id, d.filter)
  | .addTarget _ filter _ _ => some (.target id, filter)
  | _ => none

/-- Whether an operation deletes a rule or a target; targets are never deleted. -/
def Operation.Deletes (op : Operation) : Binder → Prop
  | .rule i => op = .deleteRule i
  | .target _ => False

namespace Store

/-- The id of the filter that a rule or a target is bound to. -/
def filterOf? (s : Store) : Binder → Option Int
  | .rule i => (s.rules.find? (·.id == i)).map (·.filter)
  | .target i => (s.targets.find? (·.id == i)).map (·.filter)

/-- The text saved under an id. -/
def text? (s : Store) (i : Int) : Option String := (s.filter? i).map (·.expression)

/-- **The text that a rule or a target is bound to.** -/
def boundText? (s : Store) (b : Binder) : Option String := (s.filterOf? b).bind s.text?

/-- **In a run, a text is saved and gets the given id.** -/
def Issues (s : Store) (ops : List Operation) (i : Int) (text : String) : Prop :=
  ∃ pre name post s', ops = pre ++ .addFilter name text :: post ∧
    (s.run pre).addFilter name text = .ok (i, s')

end Store

namespace Snapshot

/-- The rule is planned, or the target reported on, with the filter of a text. -/
def Evaluates (n : Snapshot) (text : String) : Binder → Prop
  | .rule i => ∃ r ∈ n.rules, r.id = i ∧ ∃ name,
      Rules.boundFilter n.savedFilters r = (Filter.parseBound text).mapError (.badFilter name)
  | .target i => ∃ g ∈ n.targets, g.id = i ∧
      g.boundFilter n.savedFilters = (Filter.parseBound text).mapError .filter

/-- The rule or the target is listed as a failure because its filter is missing. -/
def Fails (n : Snapshot) (filter : Int) : Binder → Prop
  | .rule i => ∃ r ∈ n.rules, r.id = i ∧
      Rules.boundFilter n.savedFilters r = .error (.noFilter filter)
  | .target i => ∃ g ∈ n.targets, g.id = i ∧
      g.boundFilter n.savedFilters = .error (.noTargetFilter filter g.name)

end Snapshot

namespace Store

variable {s s' : Store}

theorem run_append (s : Store) (ops ops' : List Operation) :
    s.run (ops ++ ops') = (s.run ops).run ops' := List.foldl_append

/-! ### Rules and targets keep the id of their filter -/

theorem find?_append_of_eq_some {α : Type} {p : α → Bool} {xs : List α} {x : α}
    (h : xs.find? p = some x) (ys : List α) : (xs ++ ys).find? p = some x := by
  rw [List.find?_append, h, Option.some_or]

theorem filterOf?_of_keepsBindings (h : KeepsBindings s s') (b : Binder) :
    s'.filterOf? b = s.filterOf? b := by
  cases b with
  | rule i => rw [filterOf?, filterOf?, h.rules]
  | target i => rw [filterOf?, filterOf?, h.targets]

/-- An operation that does not delete a rule or a target leaves the id of its filter. -/
theorem filterOf?_after {op : Operation} {b : Binder} {i : Int} (hb : ¬ op.Deletes b)
    (h : s.filterOf? b = some i) : (s.after op).filterOf? b = some i := by
  cases op with
  | addFilter name e =>
      rcases after_of_map_withId s (.addFilter name e) rfl with heq | ⟨j, s', hadd, heq⟩
      · rwa [heq]
      · obtain ⟨-, rfl⟩ := addFilter_eq_ok hadd
        rw [heq]
        cases b <;> exact h
  | deleteFilter j => cases b <;> exact h
  | addRule d =>
      rcases after_of_map_withId s (.addRule d) rfl with heq | ⟨j, s', hadd, heq⟩
      · rwa [heq]
      · obtain ⟨-, rfl⟩ := addRule_eq_ok hadd
        rw [heq]
        cases b with
        | rule k =>
            obtain ⟨r, hr, hi⟩ := Option.map_eq_some_iff.1 h
            exact Option.map_eq_some_iff.2 ⟨r, find?_append_of_eq_some hr _, hi⟩
        | target k => exact h
  | enableRule j enabled =>
      cases b with
      | rule k =>
          obtain ⟨r, hr, hi⟩ := Option.map_eq_some_iff.1 h
          let enable (r : Rule) : Rule := if r.id = j then { r with enabled := enabled } else r
          have hid : ((fun r : Rule => r.id == k) ∘ enable) = fun r : Rule => r.id == k := by
            funext r
            simp only [Function.comp_apply, enable]
            split <;> rfl
          refine Option.map_eq_some_iff.2 ⟨enable r, ?_, ?_⟩
          · refine (List.find?_map ..).trans ?_
            rw [hid, hr]
            rfl
          · rw [← hi]
            simp only [enable]
            split <;> rfl
      | target k => exact h
  | deleteRule j =>
      cases b with
      | rule k =>
          have hne : k ≠ j := fun heq => hb (by rw [Operation.Deletes, heq])
          obtain ⟨r, hr, hi⟩ := Option.map_eq_some_iff.1 h
          exact Option.map_eq_some_iff.2
            ⟨r, ((find?_id_filter_ne Rule.id s.rules k j).trans (if_neg hne)).trans hr, hi⟩
      | target k => exact h
  | addTarget name f p x =>
      rcases after_of_map_withId s (.addTarget name f p x) rfl with heq | ⟨j, s', hadd, heq⟩
      · rwa [heq]
      · obtain ⟨-, amount, rfl⟩ := addTarget_eq_ok hadd
        rw [heq]
        cases b with
        | rule k => exact h
        | target k =>
            obtain ⟨r, hr, hi⟩ := Option.map_eq_some_iff.1 h
            exact Option.map_eq_some_iff.2 ⟨r, find?_append_of_eq_some hr _, hi⟩
  | _ => rwa [filterOf?_of_keepsBindings (keepsBindings_after rfl)]

/-- **Rules and targets keep the id of their filter** until they are deleted. -/
theorem filterOf?_run {ops : List Operation} {b : Binder} {i : Int}
    (hb : ∀ op ∈ ops, ¬ op.Deletes b) (h : s.filterOf? b = some i) :
    (s.run ops).filterOf? b = some i := by
  induction ops generalizing s with
  | nil => exact h
  | cons op rest ih =>
      exact ih (fun op' hop => hb op' (by simp [hop])) (filterOf?_after (hb op (by simp)) h)

/-- What is entered is bound to the filter that it was entered with; saved filters stay. -/
theorem filterOf?_of_enters {op : Operation} {b : Binder} {i j : Int}
    (hop : op.enters? j = some (b, i)) (h : s.perform op = .ok (.id j, s')) :
    s'.filterOf? b = some i ∧ s'.filters = s.filters := by
  cases op with
  | addRule d =>
      cases hop
      obtain ⟨⟨k, s₁⟩, hadd, heq⟩ := Except.of_map_eq_ok h
      cases heq
      obtain ⟨rfl, rfl⟩ := addRule_eq_ok hadd
      exact ⟨Option.map_eq_some_iff.2 ⟨_, find?_id_append_fresh Rule.id rfl, rfl⟩, rfl⟩
  | addTarget name f p x =>
      cases hop
      obtain ⟨⟨k, s₁⟩, hadd, heq⟩ := Except.of_map_eq_ok h
      cases heq
      obtain ⟨rfl, amount, rfl⟩ := addTarget_eq_ok hadd
      exact ⟨Option.map_eq_some_iff.2 ⟨_, find?_id_append_fresh TargetRow.id rfl, rfl⟩, rfl⟩
  | _ => cases hop

/-! ### What becomes of a text -/

theorem text?_of_addFilter {name text : String} {i : Int}
    (h : s.addFilter name text = .ok (i, s')) : s'.text? i = some text := by
  obtain ⟨rfl, rfl⟩ := addFilter_eq_ok h
  exact Option.map_eq_some_iff.2 ⟨_, find?_id_append_fresh SavedFilter.id rfl, rfl⟩

theorem text?_of_filters (h : s'.filters = s.filters) (i : Int) : s'.text? i = s.text? i := by
  rw [text?, text?, filter?, filter?, h]

/-- An operation leaves a text, deletes it, or saves one in its place. -/
theorem text?_after (s : Store) (op : Operation) (i : Int) :
    (s.after op).text? i = s.text? i ∨ (s.after op).text? i = none ∨
      ∃ name text s', op = .addFilter name text ∧ s.addFilter name text = .ok (i, s') ∧
        (s.after op).text? i = some text := by
  cases op with
  | addFilter name text =>
      rcases after_of_map_withId s (.addFilter name text) rfl with heq | ⟨j, s', hadd, heq⟩
      · exact .inl (by rw [heq])
      · by_cases hj : j = i
        · subst hj
          refine .inr (.inr ⟨name, text, s', rfl, hadd, ?_⟩)
          rw [heq, text?_of_addFilter hadd]
        · obtain ⟨-, rfl⟩ := addFilter_eq_ok hadd
          left
          rw [heq]
          simp [text?, filter?, List.find?_append, hj]
  | deleteFilter j =>
      have hfind := find?_id_filter_ne SavedFilter.id s.filters i j
      by_cases hj : i = j
      · exact .inr (.inl (congrArg (Option.map _) (hfind.trans (if_pos hj))))
      · exact .inl (congrArg (Option.map _) (hfind.trans (if_neg hj)))
  | addRule d =>
      rcases after_of_map_withId s (.addRule d) rfl with heq | ⟨j, s', hadd, heq⟩
      · exact .inl (by rw [heq])
      · obtain ⟨-, rfl⟩ := addRule_eq_ok hadd
        exact .inl (text?_of_filters (by rw [heq]) i)
  | enableRule j enabled => exact .inl rfl
  | deleteRule j => exact .inl rfl
  | addTarget name f p x =>
      rcases after_of_map_withId s (.addTarget name f p x) rfl with heq | ⟨j, s', hadd, heq⟩
      · exact .inl (by rw [heq])
      · obtain ⟨-, amount, rfl⟩ := addTarget_eq_ok hadd
        exact .inl (text?_of_filters (by rw [heq]) i)
  | _ => exact .inl (text?_of_filters (keepsBindings_after rfl).filters i)

theorem text?_after_deleteFilter (s : Store) (i : Int) :
    (s.after (.deleteFilter i)).text? i = none :=
  congrArg (Option.map _) ((find?_id_filter_ne SavedFilter.id s.filters i i).trans (if_pos rfl))

/-- What is issued in the beginning of a run is issued in the run. -/
theorem Issues.of_initial {ops ops' : List Operation} {i : Int} {text : String}
    (h : s.Issues ops i text) (hinit : ops <+: ops') : s.Issues ops' i text := by
  obtain ⟨pre, name, post, s', rfl, hadd⟩ := h
  obtain ⟨rest, rfl⟩ := hinit
  exact ⟨pre, name, post ++ rest, s', by simp, hadd⟩

/-- **In a run, a text stays, is deleted, or has another one issued in its place.** -/
theorem text?_run (s : Store) (ops : List Operation) (i : Int) :
    (s.run ops).text? i = s.text? i ∨ (s.run ops).text? i = none ∨
      ∃ text, s.Issues ops i text ∧ (s.run ops).text? i = some text := by
  -- the last operation decides, so the induction is on the run from its end
  induction ops using List.reverseRecOn with
  | nil => exact .inl rfl
  | append_singleton ops op ih =>
      have hrun : s.run (ops ++ [op]) = (s.run ops).after op := run_append s ops [op]
      have hinit : ops <+: ops ++ [op] := List.prefix_append ops [op]
      rw [hrun]
      rcases text?_after (s.run ops) op i with hsame | hnone | ⟨name, text, s', rfl, hadd, htext⟩
      · rw [hsame]
        rcases ih with h | h | ⟨text, hissue, htext⟩
        · exact .inl h
        · exact .inr (.inl h)
        · exact .inr (.inr ⟨text, hissue.of_initial hinit, htext⟩)
      · exact .inr (.inl hnone)
      · exact .inr (.inr ⟨text, ⟨ops, name, [], s', rfl, hadd⟩, htext⟩)

/-- A text that is deleted stays away as long as none is issued in its place. -/
theorem text?_run_of_deleteFilter {ops : List Operation} {i : Int}
    (hmem : Operation.deleteFilter i ∈ ops) (hissue : ∀ text, ¬ s.Issues ops i text) :
    (s.run ops).text? i = none := by
  obtain ⟨pre, post, rfl⟩ := List.append_of_mem hmem
  rw [List.append_cons, run_append] at *
  have hdelete : (s.run (pre ++ [.deleteFilter i])).text? i = none := by
    rw [run_append]
    exact text?_after_deleteFilter (s.run pre) i
  rcases text?_run (s.run (pre ++ [.deleteFilter i])) post i with h | h | ⟨text, h, -⟩
  · rw [h, hdelete]
  · exact h
  · obtain ⟨pre', name, post', s', rfl, hadd⟩ := h
    rw [← run_append] at hadd
    exact absurd ⟨_, name, post', s', by simp, hadd⟩ (hissue text)

/-! ### Snapshots -/

theorem savedFilters_of_snapshot {n : Snapshot} (hs : s.DistinctBindings) (h : s.snapshot = .ok n)
    (i : Int) : n.savedFilters.get? i = s.filter? i := by
  obtain ⟨ts, -, h⟩ := Except.of_bind_eq_ok h
  obtain ⟨gs, -, h⟩ := Except.of_bind_eq_ok h
  cases h
  have hperm : s.listFilters.Perm s.filters := List.mergeSort_perm ..
  have hids : (s.listFilters.map SavedFilter.id).Nodup := (hperm.map _).nodup_iff.2 hs.filters
  exact (Index.get?_ofRecords hids i).trans (find?_id_eq_of_perm hids hperm i)

theorem mem_rules_of_snapshot {n : Snapshot} (h : s.snapshot = .ok n) {r : Rule} :
    r ∈ n.rules ↔ r ∈ s.rules := by
  obtain ⟨ts, -, h⟩ := Except.of_bind_eq_ok h
  obtain ⟨gs, -, h⟩ := Except.of_bind_eq_ok h
  cases h
  exact (List.mergeSort_perm ..).mem_iff

theorem exists_target_of_snapshot {n : Snapshot} (h : s.snapshot = .ok n) {row : TargetRow}
    (hrow : row ∈ s.targets) : ∃ g ∈ n.targets, g.id = row.id ∧ g.filter = row.filter := by
  obtain ⟨ts, -, h⟩ := Except.of_bind_eq_ok h
  obtain ⟨gs, hgs, h⟩ := Except.of_bind_eq_ok h
  cases h
  have hmem : row ∈ s.targets.mergeSort (thenBy (byText TargetRow.name) (byInt TargetRow.id)) :=
    (List.mergeSort_perm ..).mem_iff.2 hrow
  obtain ⟨g, hg, hread⟩ := Except.exists_of_mapM_eq_ok hgs hmem
  refine ⟨g, hg, ?_⟩
  unfold readTarget at hread
  split at hread <;> cases hread
  exact ⟨rfl, rfl⟩

/-- **Every snapshot evaluates the text that is bound,** or fails if there is none. -/
theorem evaluates_of_snapshot {n : Snapshot} (hs : s.DistinctBindings) (h : s.snapshot = .ok n)
    {b : Binder} {i : Int} (hb : s.filterOf? b = some i) :
    match s.boundText? b with
    | some text => n.Evaluates text b
    | none => n.Fails i b := by
  have hget := savedFilters_of_snapshot hs h i
  have htext : s.boundText? b = (s.filter? i).map (·.expression) := by rw [boundText?, hb]; rfl
  rw [htext]
  cases b with
  | rule j =>
      obtain ⟨r, hr, rfl⟩ := Option.map_eq_some_iff.1 hb
      have hmem := (mem_rules_of_snapshot h).2 (List.mem_of_find?_eq_some hr)
      have hid : r.id = j := by simpa using List.find?_some hr
      cases hf : s.filter? r.filter with
      | none => exact ⟨r, hmem, hid, by rw [Rules.boundFilter, Filter.ofSaved, hget, hf]⟩
      | some f => exact ⟨r, hmem, hid, f.name, by rw [Rules.boundFilter, Filter.ofSaved, hget, hf]⟩
  | target j =>
      obtain ⟨row, hrow, rfl⟩ := Option.map_eq_some_iff.1 hb
      obtain ⟨g, hg, hgid, hgf⟩ := exists_target_of_snapshot h (List.mem_of_find?_eq_some hrow)
      have hid : g.id = j := by rw [hgid]; simpa using List.find?_some hrow
      cases hf : s.filter? row.filter with
      | none => exact ⟨g, hg, hid, by rw [Target.boundFilter, Filter.ofSaved, hgf, hget, hf]⟩
      | some f => exact ⟨g, hg, hid, by rw [Target.boundFilter, Filter.ofSaved, hgf, hget, hf]⟩

/-! ### When the text stays the same -/

/-- **The text stays the same exactly if its id is not issued with another one.**  A rule or a
target is entered while its filter is there; from then on, as long as it is not deleted, it never
evaluates another text if and only if none is saved under the same id.  When the filter is deleted
and none is saved in its place, it fails.  What a snapshot makes of it is what is bound in the
store. -/
theorem keeps_text_iff {history ops : List Operation} {op : Operation} {b : Binder} {i j : Int}
    {f : SavedFilter} (hfilter : (run empty history).filter? i = some f)
    (henters : op.enters? j = some (b, i))
    (hperform : (run empty history).perform op = .ok (.id j, s))
    (hkeep : ∀ op ∈ ops, ¬ op.Deletes b) :
    ((∀ pre, pre <+: ops → ∀ text, (s.run pre).boundText? b = some text → text = f.expression) ↔
        ∀ text, s.Issues ops i text → text = f.expression) ∧
      (∀ pre, pre <+: ops → .deleteFilter i ∈ pre → (∀ text, ¬ s.Issues pre i text) →
        (s.run pre).boundText? b = none) ∧
      ∀ pre, pre <+: ops → ∀ n, (s.run pre).snapshot = .ok n →
        match (s.run pre).boundText? b with
        | some text => n.Evaluates text b
        | none => n.Fails i b := by
  obtain ⟨hbound, hfilters⟩ := filterOf?_of_enters henters hperform
  have htext : s.text? i = some f.expression := by
    rw [text?_of_filters hfilters, text?, hfilter, Option.map_some]
  have hstays : ∀ pre, pre <+: ops → (s.run pre).filterOf? b = some i := fun pre hpre =>
    filterOf?_run (fun op hop => hkeep op (hpre.subset hop)) hbound
  have hboundText : ∀ pre, pre <+: ops → (s.run pre).boundText? b = (s.run pre).text? i :=
    fun pre hpre => by rw [boundText?, hstays pre hpre, Option.bind_some]
  refine ⟨⟨fun h text hissue => ?_, fun h pre hpre text hpretext => ?_⟩,
    fun pre hpre hmem hissue => ?_, fun pre hpre n hn => ?_⟩
  · -- right after it is issued, a text is bound
    obtain ⟨pre, name, post, s', rfl, hadd⟩ := hissue
    have hinit : pre ++ [.addFilter name text] <+: pre ++ .addFilter name text :: post :=
      ⟨post, by simp⟩
    have hrun : s.run (pre ++ [.addFilter name text]) = s' := by
      rw [run_append]
      show (s.run pre).after (.addFilter name text) = s'
      rw [after, perform, hadd]
      rfl
    refine h _ hinit text ?_
    rw [hboundText _ hinit, hrun, text?_of_addFilter hadd]
  · rw [hboundText pre hpre] at hpretext
    rcases text?_run s pre i with hsame | hnone | ⟨text', hissue, htext'⟩
    · rw [hsame, htext] at hpretext
      exact (Option.some_inj.1 hpretext).symm
    · rw [hnone] at hpretext
      cases hpretext
    · rw [htext'] at hpretext
      rw [← Option.some_inj.1 hpretext]
      exact h text' (hissue.of_initial hpre)
  · rw [hboundText pre hpre, text?_run_of_deleteFilter hmem hissue]
  · have hreach : (s.run pre).DistinctBindings := by
      have hs : (run empty history).after op = s := by rw [after, hperform]
      rw [← hs]
      exact ((distinctBindings_run history).after op).run pre
    exact evaluates_of_snapshot hreach hn (hstays pre hpre)

theorem exists_snapshot_of_nil (ht : s.transactions = []) (hg : s.targets = []) :
    ∃ n, s.snapshot = .ok n := by
  rw [snapshot, listTransactions, listTargets, ht, hg, List.mergeSort_nil, List.mergeSort_nil]
  exact ⟨_, rfl⟩

/-- A rule fails when its filter is deleted, and up to then it evaluates the text of the filter. -/
theorem keeps_text_iff_deleted :
    (∀ pre, pre <+: [.deleteFilter 1] → ∀ text,
        ((run empty [.addFilter "Coffee" "coffee", .addRule ⟨"coffee", 1, none, [], 0⟩]).run
          pre).boundText? (.rule 1) = some text → text = "coffee") ∧
      (run empty [.addFilter "Coffee" "coffee", .addRule ⟨"coffee", 1, none, [], 0⟩,
        .deleteFilter 1]).boundText? (.rule 1) = none := by
  have hissue : ∀ s : Store, ∀ text, ¬ s.Issues [.deleteFilter 1] 1 text := by
    rintro s text ⟨pre, name, post, s', hops, -⟩
    have hmem : Operation.addFilter name text ∈ [Operation.deleteFilter 1] := by
      rw [hops]
      simp
    cases List.mem_singleton.1 hmem
  have hfilter : (run empty [.addFilter "Coffee" "coffee"]).filter? 1 =
      some ⟨1, "Coffee", "coffee"⟩ := by
    decide
  have henters : (Operation.addRule ⟨"coffee", 1, none, [], 0⟩).enters? 1 = some (.rule 1, 1) := rfl
  have hkeep : ∀ op ∈ [Operation.deleteFilter 1], ¬ op.Deletes (.rule 1) := by
    simp [Operation.Deletes]
  obtain ⟨hiff, hdelete, -⟩ := keeps_text_iff hfilter henters rfl hkeep
  refine ⟨hiff.2 fun text h => absurd h (hissue _ text), ?_⟩
  exact hdelete _ List.prefix_rfl (by simp) (hissue _)

/-- An id that is free is issued again: a rule whose filter was deleted evaluates the text of a
filter that was saved after it. -/
theorem boundText?_of_issued_again :
    (run empty [.addFilter "Coffee" "coffee"]).text? 1 = some "coffee" ∧
      ∃ n, (run empty [.addFilter "Coffee" "coffee", .addRule ⟨"coffee", 1, none, [], 0⟩,
          .deleteFilter 1, .addFilter "Rent" "rent"]).snapshot = .ok n ∧
        n.Evaluates "rent" (.rule 1) := by
  refine ⟨by decide, ?_⟩
  have hbound : (run empty [.addFilter "Coffee" "coffee", .addRule ⟨"coffee", 1, none, [], 0⟩,
      .deleteFilter 1, .addFilter "Rent" "rent"]).boundText? (.rule 1) = some "rent" := by
    decide
  obtain ⟨n, hn⟩ := exists_snapshot_of_nil (s := run empty [.addFilter "Coffee" "coffee",
    .addRule ⟨"coffee", 1, none, [], 0⟩, .deleteFilter 1, .addFilter "Rent" "rent"]) rfl rfl
  have h := evaluates_of_snapshot (distinctBindings_run _) hn (b := .rule 1) (i := 1) (by decide)
  rw [hbound] at h
  exact ⟨n, hn, h⟩

end Store

end Coffer
