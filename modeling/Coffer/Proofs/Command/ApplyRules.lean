/-
**Trying rules and applying them.**

A dry run and an application make the same plan from the same snapshot.  The dry run only shows what
it counts; the application writes the plan, and what it counts is then what one finds by comparing
the store before and after.  On a store that operations have made nothing can go wrong with either
of them but the names of the accounts.

Main results:

* `Coffer.Command.perform_rules` — **a dry run and an application fail together,** and otherwise the
  application makes the changes that the dry run has counted;
* `Coffer.Command.applied_as_planned` — **the rules do what they count,** and what a dry run says.
-/

import Coffer.Proofs.Command.AllOrNothing
import Coffer.Proofs.Store.Applying

set_option autoImplicit false

namespace Coffer.Command

variable {s : Store} {n : Snapshot} {inScope : AccountScope} {w : Bool}

/-- A dry run shows something if its scope is known. -/
theorem exists_outcome_previewRules {style : Style} {accounts : List String}
    (hscope : Steps.outcome ((scope style.settings.accounts accounts).run w) s = (.ok inScope, s))
    (hn : Steps.outcome (snapshot.run w) s = (.ok n, s)) :
    ∃ text, Steps.outcome ((previewRules style accounts).run w) s = (.ok text, s) := by
  obtain ⟨json, settings⟩ := style
  refine Steps.exists_outcome_bind_of_ok hscope (Steps.exists_outcome_bind_of_ok hn ?_)
  cases json <;> exact ⟨_, rfl⟩

/-- An application writes what is planned if its scope is known. -/
theorem exists_outcome_applyRules {style : Style} {accounts : List String}
    (hscope : Steps.outcome ((scope style.settings.accounts accounts).run true) s =
      (.ok inScope, s))
    (hn : Steps.outcome (snapshot.run true) s = (.ok n, s))
    (hadmits : s.Admits (n.plan inScope).mutations) :
    ∃ text, Steps.outcome ((applyRules style accounts).run true) s =
      (.ok text, s.withMutations (n.plan inScope).mutations) := by
  obtain ⟨json, settings⟩ := style
  refine Steps.exists_outcome_bind_of_ok hscope (Steps.exists_outcome_bind_of_ok hn ?_)
  dsimp only
  split
  · next hnone =>
      have hsame : s.withMutations (n.plan inScope).mutations = s := by
        rw [List.isEmpty_iff.1 hnone, Store.withMutations_nil]
      rw [hsame]
      refine Steps.exists_outcome_bind_of_ok (Steps.outcome_pure _ s) ?_
      cases json <;> exact ⟨_, rfl⟩
  · have hwrite := Action.outcome_attempt (n.apply inScope) s
    rw [Store.apply_eq hadmits] at hwrite
    refine Steps.exists_outcome_bind_of_ok hwrite ?_
    cases json <;> exact ⟨_, rfl⟩

/-- **A dry run and an application fail together,** and then for the names of the accounts;
otherwise the dry run leaves the store alone, and the application makes the changes of the plan. -/
theorem perform_rules (history : List Operation) (c : Setting) (accounts : List String) :
    let s := Store.empty.run history
    (∃ f, ∀ r ∈ [Request.previewRules accounts, .applyRules accounts],
        perform c r true s = (.error f, s)) ∨
      ∃ n inScope, s.snapshot = .ok n ∧
        s.scopeOf (if accounts.isEmpty then c.style.settings.accounts else accounts) = .ok inScope ∧
        (∃ text, perform c (.previewRules accounts) true s = (.ok text, s)) ∧
        ∃ text, perform c (.applyRules accounts) true s =
          (.ok text, s.withMutations (n.plan inScope).mutations) := by
  intro s
  have hs : s.Sound := Store.sound_run history
  obtain ⟨n, hn⟩ := hs.exists_snapshot
  have hsnapshot : Steps.outcome (snapshot.run true) s = (.ok n, s) := by
    rw [snapshot, Action.outcome_consult, hn]
  have hscope : Steps.outcome ((scope c.style.settings.accounts accounts).run true) s = _ :=
    Action.outcome_consultFor _ _ true s
  split at hscope
  · next inScope hnames =>
      exact .inr ⟨n, inScope, hn, hnames, exists_outcome_previewRules hscope hsnapshot,
        exists_outcome_applyRules hscope hsnapshot (Store.admits_plan hs hn)⟩
  · next e hnames =>
      refine .inl ⟨.dueTo "Failed to resolve account scope" e, fun r hr => ?_⟩
      rcases List.mem_pair.1 hr with rfl | rfl
      · exact Steps.outcome_bind_of_error hscope
      · exact Steps.outcome_bind_of_error hscope

/-- **The rules do what they count.**  On a store that operations have made, and in every scope, the
rules can be applied; what is said of the application is what the dry run says, and both are what
the plan says; and what is counted is what one finds by comparing the store before and after, which
differ only where rules write.  The changes are handed on as one batch if there are any, and a dry
run leaves the store alone. -/
theorem applied_as_planned (history : List Operation) :
    ∃ n, (Store.empty.run history).snapshot = .ok n ∧ ∀ inScope,
      let s := Store.empty.run history
      let p := n.plan inScope
      ∃ a s', n.apply inScope s = .ok (a, s') ∧
        n.dryRun inScope = ⟨p.counts, ⟨a.updated, a.categoryChanges, a.tagChanges⟩, a.failedRules,
          a.failures⟩ ∧
        (a.updated = p.updated ∧ a.categoryChanges = p.categoryChanges ∧
          a.tagChanges = p.tagChanges ∧ a.failedRules = p.failures.length ∧
          a.failures = p.failures) ∧
        s.IsCounted s' a ∧ s.OnlyByRules s' ∧
        ((Rules.carryOut (Rules.recording Store.sink) p).run []).run s = .ok ((a, p.batches), s') ∧
        ∀ c accounts w, (perform c (.previewRules accounts) w s).2 = s := by
  have hs := Store.sound_run history
  obtain ⟨n, hn⟩ := hs.exists_snapshot
  refine ⟨n, hn, fun inScope => ?_⟩
  have hadmits : (Store.empty.run history).Admits (n.plan inScope).mutations :=
    Store.admits_plan hs hn
  have happly := Store.apply_eq hadmits
  refine ⟨_, _, happly, rfl, ⟨rfl, rfl, rfl, rfl, rfl⟩, ?_, Store.onlyByRules_withMutations _ _,
    Store.run_recording_sink happly, ?_⟩
  · exact Store.isCounted_withMutations hs (Store.distinct_plan hs hn)
      fun m hm => Store.isNews_of_mem_plan hs hn hm
  · exact fun c accounts w => reads_previewRules c.style accounts w _

/-- A coffee with a rule that selects it, and a rule without a filter. -/
def cafeWithGap : List Operation := Store.cafe ++ [.addRule ⟨"gone", 9, none, [1], 1⟩]

theorem plan_cafeWithGap (hn : (Store.empty.run cafeWithGap).snapshot = .ok n) :
    n.plan .all =
      ⟨[⟨1, some ⟨none, 1⟩, [1]⟩], [⟨1, "coffee", 1⟩], [⟨2, "gone", .noFilter 9⟩]⟩ := by
  have hrules : (Store.empty.run cafeWithGap).listRules =
      [⟨⟨"coffee", 1, some 1, [1], 0⟩, 1, true⟩, ⟨⟨"gone", 9, none, [1], 1⟩, 2, true⟩] :=
    List.mergeSort_of_pairwise (by decide)
  have horder : Rules.enabledInOrder
      [⟨⟨"coffee", 1, some 1, [1], 0⟩, 1, true⟩, ⟨⟨"gone", 9, none, [1], 1⟩, 2, true⟩] =
      [⟨⟨"coffee", 1, some 1, [1], 0⟩, 1, true⟩, ⟨⟨"gone", 9, none, [1], 1⟩, 2, true⟩] :=
    List.mergeSort_of_pairwise (by decide)
  obtain ⟨ts, hts, hn⟩ := Except.of_bind_eq_ok hn
  obtain ⟨gs, -, hn⟩ := Except.of_bind_eq_ok hn
  cases hn
  have hcoffee : ts = [⟨⟨none, ⟨2024, 2, 29, by decide⟩, none, "COFFEE", 0, none⟩, 1⟩] := by
    have hlist : (Store.empty.run cafeWithGap).listTransactions.mapError Error.store =
        .ok [⟨⟨none, ⟨2024, 2, 29, by decide⟩, none, "COFFEE", 0, none⟩, 1⟩] := by
      decide +kernel
    exact Except.ok.inj (hts.symm.trans hlist)
  simp only [Snapshot.plan, Rules.plan, hrules, horder, hcoffee]
  decide +kernel

/-- The coffee gets its category and its tag, and one rule fails. -/
theorem applied_as_planned_cafeWithGap : ∃ n s', (Store.empty.run cafeWithGap).snapshot = .ok n ∧
    n.dryRun .all = ⟨[⟨1, "coffee", 1⟩], ⟨1, 1, 1⟩, 1, [⟨2, "gone", .noFilter 9⟩]⟩ ∧
    n.apply .all (Store.empty.run cafeWithGap) =
      .ok (⟨1, 1, 1, 1, [⟨2, "gone", .noFilter 9⟩]⟩, s') ∧
    (Store.empty.run cafeWithGap).IsCounted s' ⟨1, 1, 1, 1, [⟨2, "gone", .noFilter 9⟩]⟩ ∧
    (Store.empty.run cafeWithGap).OnlyByRules s' ∧
    ((Rules.carryOut (Rules.recording Store.sink) (n.plan .all)).run []).run
        (Store.empty.run cafeWithGap) =
      .ok ((⟨1, 1, 1, 1, [⟨2, "gone", .noFilter 9⟩]⟩, [[⟨1, some ⟨none, 1⟩, [1]⟩]]), s') := by
  obtain ⟨n, hn, hall⟩ := applied_as_planned cafeWithGap
  obtain ⟨⟨updated, categories, tags, failed, failures⟩, s', happly, hdry, hcounts,
    hcompared, honly, hbatches, -⟩ := hall .all
  rw [plan_cafeWithGap hn] at hdry hcounts hbatches
  obtain ⟨rfl, rfl, rfl, rfl, rfl⟩ := hcounts
  refine ⟨n, s', hn, hdry, happly, hcompared, honly, ?_⟩
  rw [plan_cafeWithGap hn]
  exact hbatches

end Coffer.Command
