/-
**Applying rules to the store.**

A plan is made from a snapshot and written to the store as it is by then.  Whatever happened in
between, everything that the plan refers to is still there, so that it can be written; and to write
it is to make its changes, each of them once.  When nothing happened in between, each change is one:
a transaction that is to get a category has another one, and a tag that is to be attached is not.
So what the plan counts is what one finds by comparing the store before and after.

Main definitions:

* `Coffer.Store.IsNews` — a change that says something new of a transaction of the store;
* `Coffer.Store.IsCounted` — what is counted is what one finds by comparing two stores;
* `Coffer.Store.OnlyByRules` — two stores differ only where rules write;
* `Coffer.Rules.recording` — a sink that writes down what it is handed.

Main results:

* `Coffer.Rules.run_carryOut_recording` — **a plan is handed on as one batch, or not at all;**
* `Coffer.Store.isNews_of_mem_plan` — **what a plan changes is news;**
* `Coffer.Store.apply_held` — **a plan can always be written,** and its effect is that of its
  changes;
* `Coffer.Store.isCounted_withMutations` — **what a plan counts is what changes.**
-/

import Coffer.Proofs.Rules.PlanSpec
import Coffer.Proofs.Store.FilterIds
import Coffer.Proofs.Store.Loading
import Coffer.Proofs.Store.Mutations

set_option autoImplicit false

namespace Coffer

/-- What is planned from a snapshot. -/
def Snapshot.problem (n : Snapshot) (scope : AccountScope) : Rules.Problem :=
  ⟨n.catalog, n.tagMap, n.savedFilters, scope, n.transactions, n.rules⟩

theorem Rules.exists_of_lastCategory {rs : List Rule} {c : Int} (h : lastCategory rs = some c) :
    ∃ r ∈ rs, r.setCategory = some c :=
  List.mem_filterMap.1 (List.mem_of_getLast? h)

/-! ### What a sink is handed -/

section

variable {m : Type → Type} [Monad m]

/-- A sink that also writes down what it is handed. -/
def Rules.recording (sink : List Mutation → m Unit) (ms : List Mutation) :
    StateT (List (List Mutation)) m Unit := do
  modify (· ++ [ms])
  sink ms

/-- What a plan hands to its sink: all its changes in one batch, or nothing if there are none. -/
def RulePlan.batches (p : RulePlan) : List (List Mutation) :=
  if p.mutations = [] then [] else [p.mutations]

/-- **A plan is handed on as one batch, or not at all.** -/
theorem Rules.run_carryOut_recording [LawfulMonad m] (sink : List Mutation → m Unit) (p : RulePlan)
    (log : List (List Mutation)) :
    (carryOut (recording sink) p).run log =
      (fun a => (a, log ++ p.batches)) <$> carryOut sink p := by
  unfold carryOut RulePlan.batches
  cases hms : p.mutations with
  | nil => simp
  | cons x rest => simp [recording]

end

namespace Store

variable {s s' : Store} {n : Snapshot} {scope : AccountScope} {m : Mutation} {ms : List Mutation}

/-! ### Plans -/

/-- A change of a transaction of the store that says something new of it. -/
structure IsNews (s : Store) (m : Mutation) : Prop where
  row : ∃ r ∈ s.transactions, r.id = m.transaction ∧
    ∀ c, m.category = some c → r.category ≠ some c.after
  category : ∀ c, m.category = some c → s.hasCategory c.after = true
  tags : ∀ g ∈ m.addedTags, s.hasTag g = true ∧ s.isLinked m.transaction g = false
  distinctTags : m.addedTags.Nodup
  something : m.category.isSome = true ∨ m.addedTags ≠ []

/-- **What a plan changes is news** for the store that it is made from. -/
theorem isNews_of_mem_plan (hs : s.Sound) (h : s.snapshot = .ok n)
    (hm : m ∈ (n.plan scope).mutations) : s.IsNews m := by
  obtain ⟨t, ht, -, hmutation⟩ := (Rules.Problem.mem_mutations_iff (P := n.problem scope)).1 hm
  obtain ⟨rfl, hsomething⟩ := Rules.Problem.mutation?_eq_some_iff.1 hmutation
  -- the rules that write are rules of the store
  have hrules : ∀ r ∈ (n.problem scope).selecting (n.problem scope).bound t, s.HasNamesOf r :=
    fun r hr => hs.rules r ((mem_rules_of_snapshot h).1 (Rules.Problem.mem_selecting_iff.1 hr).1)
  obtain ⟨r, hr, hid, hcategory⟩ := exists_row_of_snapshot h ht
  refine ⟨⟨r, hr, hid, fun c hc => ?_⟩, fun c hc => ?_, fun g hg => ?_, ?_, ?_⟩
  · rw [hcategory]
    exact (Rules.Problem.categoryChange?_eq_some_iff.1 hc).2.1
  · obtain ⟨-, -, hlast⟩ := Rules.Problem.categoryChange?_eq_some_iff.1 hc
    obtain ⟨r', hr', hset⟩ := Rules.exists_of_lastCategory hlast
    exact (hrules r' hr').category _ hset
  · obtain ⟨⟨r', hr', hadd⟩, hnew⟩ := Rules.mem_addedTags_iff.1 hg
    refine ⟨(hrules r' hr').tags g hadd, ?_⟩
    rw [← Bool.not_eq_true, ← mem_tagsOf_iff hs h, List.mem_map]
    rintro ⟨g', hg', hid'⟩
    exact hnew g' hg' hid'
  · exact (Rules.pairwise_addedTags _ _).imp fun hlt => Int.ne_of_lt hlt
  · rcases hsomething with ⟨c, hc⟩ | ⟨g, hg⟩
    · exact .inl (by rw [hc]; rfl)
    · exact .inr (List.ne_nil_of_mem hg)

theorem distinct_plan (hs : s.Sound) (h : s.snapshot = .ok n) :
    ((n.plan scope).mutations.map (·.transaction)).Nodup :=
  Rules.Problem.nodup_mutations (P := n.problem scope) (nodup_ids_of_snapshot hs h)

/-- A store admits what is planned from it. -/
theorem admits_plan (hs : s.Sound) (h : s.snapshot = .ok n) :
    s.Admits (n.plan scope).mutations where
  distinct := distinct_plan hs h
  distinctTags := fun m hm => (isNews_of_mem_plan hs h hm).distinctTags
  transactions := by
    intro m hm
    obtain ⟨r, hr, hid, -⟩ := (isNews_of_mem_plan hs h hm).row
    exact hasTransaction_iff.2 (hid ▸ List.mem_map_of_mem hr)
  categories := fun m hm => (isNews_of_mem_plan hs h hm).category
  tags := fun m hm g hg => ((isNews_of_mem_plan hs h hm).tags g hg).1

/-! ### Writing a plan -/

/-- The sink that writes to the store. -/
def sink (ms : List Mutation) : StateT Store (Except StoreError) Unit :=
  fun s => (s.writeMutations ms).map ((), ·)

/-- A plan that the store admits is written. -/
theorem apply_eq (h : s.Admits (n.plan scope).mutations) :
    n.apply scope s = .ok (.ofPlan (n.plan scope), s.withMutations (n.plan scope).mutations) := by
  show (Rules.carryOut sink (n.plan scope)).run s = _
  unfold Rules.carryOut
  have hwrite := writeMutations_eq h
  cases hms : (n.plan scope).mutations with
  | nil =>
      rw [withMutations_nil]
      rfl
  | cons m rest =>
      rw [hms] at hwrite
      show ((s.writeMutations (m :: rest)).map ((), ·) >>= _) = _
      rw [hwrite]
      rfl

/-- The sink of an application is handed the batch of the plan. -/
theorem run_recording_sink {a : Rules.Applied} (h : n.apply scope s = .ok (a, s')) :
    ((Rules.carryOut (Rules.recording sink) (n.plan scope)).run []).run s =
      .ok ((a, (n.plan scope).batches), s') := by
  rw [Rules.run_carryOut_recording, List.nil_append, StateT.run_map]
  exact congrArg (Functor.map _) h

/-- **A held plan can always be written.**  A snapshot is taken, and then the store is worked on in
any way.  To apply the rules of the snapshot never fails; it makes the changes that were planned and
no others, and to apply them once more leaves the store as it is. -/
theorem apply_held (history later : List Operation) :
    ∃ n, (run empty history).snapshot = .ok n ∧ ∀ scope,
      let s := (run empty history).run later
      let p := n.plan scope
      n.apply scope s = .ok (.ofPlan p, s.withMutations p.mutations) ∧
        n.apply scope (s.withMutations p.mutations) =
          .ok (.ofPlan p, s.withMutations p.mutations) := by
  have hs := sound_run history
  obtain ⟨n, hn⟩ := hs.exists_snapshot
  refine ⟨n, hn, fun scope => ?_⟩
  have hadmits : ((run empty history).run later).Admits (n.plan scope).mutations :=
    (admits_plan hs hn).extends (extends_run _ later)
  have hwrite := writeMutations_eq hadmits
  have hagain := hadmits.extends (changes_writeMutations hwrite).extends
  refine ⟨apply_eq hadmits, ?_⟩
  rw [apply_eq hagain, withMutations_withMutations]

/-- A coffee and a rule that gives it a category and a tag. -/
def cafe : List Operation :=
  [.ensureCategory "Coffee" 0 none, .ensureTag "treat" none,
    .addTransaction ⟨none, ⟨2024, 2, 29, by decide⟩, none, "COFFEE", 0, none⟩,
    .addFilter "Coffee" "desc:coffee", .addRule ⟨"coffee", 1, some 1, [1], 0⟩]

/-- The coffee is to get its category and its tag. -/
theorem plan_cafe (hn : (run empty cafe).snapshot = .ok n) :
    n.plan .all = ⟨[⟨1, some ⟨none, 1⟩, [1]⟩], [⟨1, "coffee", 1⟩], []⟩ := by
  have hall : ((run empty cafe).snapshot.map fun n => n.plan .all) =
      .ok ⟨[⟨1, some ⟨none, 1⟩, [1]⟩], [⟨1, "coffee", 1⟩], []⟩ := by
    decide +kernel
  rw [hn] at hall
  exact Except.ok.inj hall

/-- Someone takes the coffee for a tea and attaches its tag, and the rule is deleted with its
filter. -/
def meanwhile : List Operation :=
  [.ensureCategory "Tea" 0 none, .categorize 1 (some 2), .attachTag 1 1 .manual, .deleteFilter 1,
    .deleteRule 1]

/-- The plan from before is written all the same, and the tag that is attached keeps its source. -/
theorem apply_held_cafe : ∃ n s', (run empty cafe).snapshot = .ok n ∧
    ((run empty cafe).run meanwhile).transactions.map (·.category) = [some 2] ∧
    n.apply .all ((run empty cafe).run meanwhile) = .ok (⟨1, 1, 1, 0, []⟩, s') ∧
    s'.transactions.map (·.category) = [some 1] ∧ s'.links = [⟨1, 1, "manual"⟩] ∧
    n.apply .all s' = .ok (⟨1, 1, 1, 0, []⟩, s') := by
  obtain ⟨n, hn, hheld⟩ := apply_held cafe meanwhile
  obtain ⟨hfirst, hagain⟩ := hheld .all
  rw [plan_cafe hn] at hfirst hagain
  exact ⟨n, _, hn, by decide, hfirst, by decide, by decide, hagain⟩

/-! ### What is found by comparing -/

/-- The category of a transaction, if there is such a transaction and it has one. -/
def categoryOf? (s : Store) (i : Int) : Option (Option Int) :=
  (s.transactions.find? (·.id == i)).map (·.category)

/-- The number of tags on a transaction. -/
def tagCount (s : Store) (i : Int) : Nat := s.links.countP (·.transaction == i)

/-- Whether a transaction has got another category. -/
def hasOtherCategory (s s' : Store) (i : Int) : Bool := s'.categoryOf? i != s.categoryOf? i

/-- Whether a transaction has got more tags. -/
def hasMoreTags (s s' : Store) (i : Int) : Bool := decide (s.tagCount i < s'.tagCount i)

/-- **What is counted is what one finds by comparing** two stores, transaction by transaction. -/
structure IsCounted (s s' : Store) (a : Rules.Applied) : Prop where
  categoryChanges : a.categoryChanges =
    (s.transactions.map TransactionRow.id).countP (s.hasOtherCategory s')
  tagChanges : a.tagChanges = (s.transactions.map TransactionRow.id).countP (s.hasMoreTags s')
  updated : a.updated = (s.transactions.map TransactionRow.id).countP fun i =>
    s.hasOtherCategory s' i || s.hasMoreTags s' i

/-- **Two stores differ only where rules write:** in the categories of transactions, and in tags
that rules have attached. -/
structure OnlyByRules (s s' : Store) : Prop where
  rows : s'.transactions.map (fun r => { r with category := none }) =
    s.transactions.map fun r => { r with category := none }
  links : ∃ new, s'.links = s.links ++ new ∧
    ∀ l ∈ new, l.source = TagSource.rule.name ∧ s.isLinked l.transaction l.tag = false
  others : { s' with transactions := s.transactions, links := s.links } = s

/-- Counting transactions is counting changes. -/
theorem countP_ids {ids : List Int} (hids : ids.Nodup) (hms : (ms.map (·.transaction)).Nodup)
    (hthere : ∀ m ∈ ms, m.transaction ∈ ids) {p : Int → Bool} {q : Mutation → Bool}
    (hpq : ∀ i ∈ ids, p i = true ↔ ∃ m ∈ ms, q m = true ∧ m.transaction = i) :
    ids.countP p = ms.countP q := by
  have hperm : (ids.filter p).Perm ((ms.filter q).map (·.transaction)) := by
    refine (List.perm_ext_iff_of_nodup (hids.filter p)
      (hms.sublist (List.filter_sublist.map _))).2 fun i => ?_
    simp only [List.mem_filter, List.mem_map, and_assoc]
    constructor
    · rintro ⟨hi, hp⟩
      exact (hpq i hi).1 hp
    · rintro ⟨m, hm, hq, rfl⟩
      exact ⟨hthere m hm, (hpq _ (hthere m hm)).2 ⟨m, hm, hq, rfl⟩⟩
  rw [List.countP_eq_length_filter, List.countP_eq_length_filter, hperm.length_eq, List.length_map]

theorem id_rewritten (ms : List Mutation) (r : TransactionRow) : (rewritten ms r).id = r.id := by
  unfold rewritten
  split
  · exact id_onRow _ r
  · rfl

theorem categoryOf?_withMutations (s : Store) (ms : List Mutation) (i : Int) :
    (s.withMutations ms).categoryOf? i =
      (s.transactions.find? (·.id == i)).map fun r => (rewritten ms r).category := by
  have hid : ((·.id == i) ∘ rewritten ms : TransactionRow → Bool) = (·.id == i) := by
    funext r
    exact congrArg (· == i) (id_rewritten ms r)
  unfold categoryOf?
  show ((s.transactions.map (rewritten ms)).find? _).map _ = _
  rw [List.find?_map, hid, Option.map_map]
  rfl

theorem rewritten_of_mem (hms : (ms.map (·.transaction)).Nodup) {r : TransactionRow} (hm : m ∈ ms)
    (hid : m.transaction = r.id) : rewritten ms r = m.onRow r := by
  have hfind : ms.find? (·.transaction == r.id) = some m := (find?_id_eq_some_iff hms).2 ⟨hm, hid⟩
  unfold rewritten
  rw [hfind]

theorem rewritten_of_notMem {r : TransactionRow} (h : ∀ m ∈ ms, m.transaction ≠ r.id) :
    rewritten ms r = r := by
  have hfind : ms.find? (·.transaction == r.id) = none :=
    List.find?_eq_none.2 fun m hm hid => h m hm (eq_of_beq hid)
  unfold rewritten
  rw [hfind]

/-- A transaction gets another category exactly if a change sets one. -/
theorem hasOtherCategory_iff (hs : s.Sound) (hms : (ms.map (·.transaction)).Nodup)
    (hnews : ∀ m ∈ ms, s.IsNews m) {i : Int} (hi : i ∈ s.transactions.map TransactionRow.id) :
    s.hasOtherCategory (s.withMutations ms) i = true ↔
      ∃ m ∈ ms, m.category.isSome = true ∧ m.transaction = i := by
  obtain ⟨r, hr, rfl⟩ := List.mem_map.1 hi
  have hfind := (find?_id_eq_some_iff hs.transactions).2 ⟨hr, rfl⟩
  have hother : s.hasOtherCategory (s.withMutations ms) r.id = true ↔
      (rewritten ms r).category ≠ r.category := by
    unfold hasOtherCategory
    rw [categoryOf?_withMutations, categoryOf?, hfind, bne_iff_ne, Option.map_some,
      Option.map_some, Ne, Option.some_inj]
  rw [hother]
  constructor
  · intro hne
    by_contra hnone
    refine hne ?_
    by_cases hmem : ∃ m ∈ ms, m.transaction = r.id
    · obtain ⟨m, hm, hid⟩ := hmem
      have hc : m.category = none := by
        rw [← Option.not_isSome_iff_eq_none]
        exact fun hsome => hnone ⟨m, hm, hsome, hid⟩
      rw [rewritten_of_mem hms hm hid, Mutation.onRow, if_pos hid.symm, hc]
    · rw [rewritten_of_notMem fun m hm hid => hmem ⟨m, hm, hid⟩]
  · rintro ⟨m, hm, hsome, hid⟩
    obtain ⟨c, hc⟩ := Option.isSome_iff_exists.1 hsome
    obtain ⟨r', hr', hid', hold⟩ := (hnews m hm).row
    -- the row that the change is about is this one
    have hrow : r' = r := Option.some_inj.1
      (((find?_id_eq_some_iff hs.transactions).2 ⟨hr', hid'.trans hid⟩).symm.trans hfind)
    rw [rewritten_of_mem hms hm hid, Mutation.onRow, if_pos hid.symm, hc]
    exact fun heq => hold c hc (hrow ▸ heq.symm)

/-- A transaction gets more tags exactly if a change adds some. -/
theorem hasMoreTags_iff (hnews : ∀ m ∈ ms, s.IsNews m) (i : Int) :
    s.hasMoreTags (s.withMutations ms) i = true ↔
      ∃ m ∈ ms, (!m.addedTags.isEmpty) = true ∧ m.transaction = i := by
  have hcount : (s.withMutations ms).tagCount i = s.tagCount i +
      (ms.flatMap fun m => s.newLinks m.transaction m.addedTags).countP (·.transaction == i) :=
    List.countP_append
  unfold hasMoreTags
  rw [decide_eq_true_iff, hcount, Nat.lt_add_right_iff_pos, List.countP_pos_iff]
  simp only [List.mem_flatMap, beq_iff_eq]
  constructor
  · rintro ⟨l, ⟨m, hm, hl⟩, rfl⟩
    obtain ⟨hid, htag, -⟩ := mem_newLinks_iff.1 hl
    refine ⟨m, hm, ?_, hid.symm⟩
    simpa using List.ne_nil_of_mem htag
  · rintro ⟨m, hm, hadded, rfl⟩
    obtain ⟨g, hg⟩ := List.exists_mem_of_ne_nil m.addedTags (by simpa using hadded)
    exact ⟨⟨m.transaction, g, TagSource.rule.name⟩,
      ⟨m, hm, mem_newLinks_iff.2 ⟨rfl, hg, ((hnews m hm).tags g hg).2, rfl⟩⟩, rfl⟩

/-- **What a plan counts is what changes.** -/
theorem isCounted_withMutations {p : RulePlan} (hs : s.Sound)
    (hp : (p.mutations.map (·.transaction)).Nodup) (hnews : ∀ m ∈ p.mutations, s.IsNews m) :
    s.IsCounted (s.withMutations p.mutations) (.ofPlan p) := by
  have hthere : ∀ m ∈ p.mutations, m.transaction ∈ s.transactions.map TransactionRow.id := by
    intro m hm
    obtain ⟨r, hr, hid, -⟩ := (hnews m hm).row
    exact hid ▸ List.mem_map_of_mem hr
  have hcategory := fun i hi => hasOtherCategory_iff hs hp hnews (i := i) hi
  refine ⟨(countP_ids hs.transactions hp hthere hcategory).symm,
    (countP_ids hs.transactions hp hthere fun i _ => hasMoreTags_iff hnews i).symm, ?_⟩
  have hall : p.mutations.countP (fun _ => true) = p.updated :=
    congrFun List.countP_true p.mutations
  refine hall.symm.trans (countP_ids hs.transactions hp hthere fun i hi => ?_).symm
  rw [Bool.or_eq_true, hcategory i hi, hasMoreTags_iff hnews i]
  constructor
  · rintro (⟨m, hm, -, hid⟩ | ⟨m, hm, -, hid⟩) <;> exact ⟨m, hm, rfl, hid⟩
  · rintro ⟨m, hm, -, hid⟩
    rcases (hnews m hm).something with hsome | hne
    · exact .inl ⟨m, hm, hsome, hid⟩
    · exact .inr ⟨m, hm, by simpa using hne, hid⟩

theorem onlyByRules_withMutations (s : Store) (ms : List Mutation) :
    s.OnlyByRules (s.withMutations ms) where
  rows := by
    show (s.transactions.map (rewritten ms)).map _ = _
    rw [List.map_map]
    refine List.map_congr_left fun r _ => ?_
    dsimp only [Function.comp, rewritten]
    split
    · unfold Mutation.onRow
      split
      · split <;> rfl
      · rfl
    · rfl
  links := by
    refine ⟨_, rfl, fun l hl => ?_⟩
    obtain ⟨m, -, hl⟩ := List.mem_flatMap.1 hl
    obtain ⟨hid, -, hnew, hsource⟩ := mem_newLinks_iff.1 hl
    exact ⟨hsource, hid ▸ hnew⟩
  others := rfl

end Store

end Coffer
