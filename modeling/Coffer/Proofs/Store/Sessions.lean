/-
**Operations as sessions of statements.**

A store in its file takes one statement after another.  A statement is refused, or it changes one
table for good.  An operation of several statements that is refused in the middle would leave behind
what its first statements wrote; where that can happen the statements are taken together, and the
tables are put back.  A session is the row of statements by which an operation is carried out, and
it comes to what `Coffer.Store.perform` says.

Main definitions:

* `Coffer.Session`, with the steps `Coffer.Session.send`, `Session.select` and `Session.together`;
* `Coffer.Operation.session` — the statements of each operation;
* `Coffer.Store.serve` — one session after another, with their answers.

Main results:

* `Coffer.Session.outcome_session` — **a session comes to what the operation says,** and nothing is
  left of one that is refused;
* `Coffer.Store.refused_leaves_no_trace` — **what comes after a refused operation is as if it had
  not been asked for.**
-/

import Coffer.Proofs.Except
import Coffer.Proofs.Steps
import Coffer.Proofs.Store.Names

set_option autoImplicit false

namespace Coffer

/-! ### Statements -/

namespace Store

/-- Enters an account under a name that is not taken. -/
def insertAccount (name : String) (s : Store) : Except StoreError (Int × Store) :=
  if s.accounts.any (·.name == name) then .error (.duplicate "accounts.name")
  else
    let i := freshId (s.accounts.map Account.id)
    .ok (i, { s with accounts := s.accounts ++ [⟨i, name⟩] })

/-- Enters a category under a name that is not taken. -/
def insertCategory (name : String) (sortOrder : Int) (color : Option String) (s : Store) :
    Except StoreError (Int × Store) :=
  if s.categories.any fun c => Text.sameName c.name name then .error (.duplicate "categories.name")
  else
    let i := freshId (s.categories.map Category.id)
    .ok (i, { s with categories := s.categories ++ [⟨i, name, sortOrder, color⟩] })

/-- Enters a tag under a name that is not taken. -/
def insertTag (name : String) (color : Option String) (s : Store) :
    Except StoreError (Int × Store) :=
  if s.tags.any fun t => Text.sameName t.name name then .error (.duplicate "tags.name")
  else
    let i := freshId (s.tags.map Tag.id)
    .ok (i, { s with tags := s.tags ++ [⟨i, name, color⟩] })

/-- A store with one more rule, which adds these tags. -/
def withRule (s : Store) (d : RuleDraft) (i : Int) (tags : List Int) : Store :=
  { s with rules := s.rules ++ [{ d with addTags := tags, id := i, enabled := true }] }

/-- Enters a rule that adds no tags yet. -/
def insertRule (d : RuleDraft) (s : Store) : Except StoreError (Int × Store) := do
  demandOpt s.hasCategory d.setCategory
  let i := freshId (s.rules.map Rule.id)
  return (i, s.withRule d i [])

/-- Lets a rule add one more tag; one that it adds already is passed over. -/
def insertRuleTag (rule tag : Int) (s : Store) : Except StoreError Store := do
  if s.rules.any fun r => r.id == rule && r.addTags.contains tag then return s
  else
    demand (s.rules.any (·.id == rule))
    demand (s.hasTag tag)
    return { s with rules := s.rules.map fun r =>
      if r.id = rule then { r with addTags := insertId tag r.addTags } else r }

/-- Enters a budget, or changes its amount if the category has one. -/
def putBudget (category : Int) (x : Float) (s : Store) : Except StoreError Store := do
  let amount ← keepAmount "category_budgets.amount" x
  if s.budgets.any (·.category == category) then
    return { s with budgets := s.budgets.map fun b =>
      if b.category = category then { b with amount := amount } else b }
  else
    demand (s.hasCategory category)
    return { s with budgets := s.budgets ++
      [⟨freshId (s.budgets.map Budget.id), category, amount⟩] }

end Store

/-! ### Sessions -/

/-- Why a session ends early. -/
inductive Interruption where
  /-- A statement is refused. -/
  | refused (e : StoreError)
  /-- A row is to be read that is not there. -/
  | noRow
  deriving DecidableEq

/-- **A row of statements.** -/
abbrev Session (α : Type) : Type := Steps Store Interruption α

namespace Session

variable {α β : Type}

/-- Sends a statement. -/
def send (statement : Store → Except StoreError (α × Store)) : Session α := do
  match statement (← get) with
  | .ok (a, s) =>
    set s
    return a
  | .error e => throw (.refused e)

/-- Sends a statement without an answer. -/
def write (statement : Store → Except StoreError Store) : Session Unit :=
  send fun s => (statement s).map ((), ·)

/-- Reads a row, if there is one. -/
def select (row? : Store → Option α) : Session (Option α) := return row? (← get)

/-- Takes statements together: if they end early then the tables are put back. -/
def together (x : Session α) : Session α := do
  let s ← get
  try x
  catch e =>
    set s
    throw e

/-- The id of the row with a name, which is entered if need be. -/
def ensure (find? : Store → Option Int) (insert : Store → Except StoreError (Int × Store)) :
    Session Answer := do
  match ← select find? with
  | some i => return .id i
  | none => return .id (← send insert)

/-- Writes what changes on one transaction. -/
def writeMutation (m : Mutation) : Session Unit := do
  match m.category with
  | some c => write (Store.categorize m.transaction (some c.after))
  | none => pure ()
  m.addedTags.forM fun tag => write (Store.attachTag m.transaction tag .rule)

end Session

open Session in
/-- **The statements of an operation.** -/
def Operation.session : Operation → Session Answer
  | .ensureAccount name =>
    ensure (fun s => (s.accountNamed? name).map Account.id) (Store.insertAccount name)
  | .ensureCategory name sortOrder color =>
    ensure (fun s => (s.categoryNamed? name).map Category.id)
      (Store.insertCategory name sortOrder color)
  | .ensureTag name color =>
    ensure (fun s => (s.tagNamed? name).map Tag.id) (Store.insertTag name color)
  | .addTransaction p => return .id (← send (Store.addTransaction p))
  | .categorize t c => do
    write (Store.categorize t c)
    return .done
  | .attachTag t g source => do
    write (Store.attachTag t g source)
    return .done
  | .addFilter name expression => return .id (← send (Store.addFilter name expression))
  | .deleteFilter i => return .found (← send fun s => .ok (s.deleteFilter i))
  | .addRule d => together do
    let i ← send (Store.insertRule d)
    d.addTags.forM fun tag => write (Store.insertRuleTag i tag)
    return .id i
  | .enableRule i b => return .found (← send fun s => .ok (s.enableRule i b))
  | .deleteRule i => return .found (← send fun s => .ok (s.deleteRule i))
  | .writeMutations ms => together do
    ms.forM writeMutation
    return .done
  | .setBudget c x => do
    write (Store.putBudget c x)
    match ← select fun s => (s.budgetOf? c).map Budget.id with
    | some i => return .id i
    | none => throw .noRow
  | .overrideBudget b month x => do
    write (Store.overrideBudget b month x)
    return .done
  | .addTarget name f p x => return .id (← send (Store.addTarget name f p x))
  | .overrideTarget g p x => do
    write (Store.overrideTarget g p x)
    return .done
  | .addOffset c d x => return .id (← send (Store.addOffset c d x))

namespace Session

variable {α : Type} {s : Store}

/-- What comes of something that is done whole or refused. -/
def whole (s : Store) : Except StoreError (α × Store) → Except Interruption α × Store
  | .ok (a, t) => (.ok a, t)
  | .error e => (.error (.refused e), s)

theorem outcome_send (statement : Store → Except StoreError (α × Store)) (s : Store) :
    (send statement).outcome s = whole s (statement s) := by
  rw [send, Steps.outcome_bind_of_ok (Steps.outcome_get s)]
  rcases statement s with e | ⟨a, t⟩ <;> rfl

theorem outcome_select (row? : Store → Option α) (s : Store) :
    (select row?).outcome s = (.ok (row? s), s) := rfl

theorem outcome_together (x : Session α) (s : Store) :
    (together x).outcome s = match x.outcome s with
      | (.ok a, t) => (.ok a, t)
      | (.error e, _) => (.error e, s) := by
  rw [together, Steps.outcome_bind_of_ok (Steps.outcome_get s)]
  exact (Steps.outcome_tryCatch x _ s).trans (by rcases x.outcome s with ⟨_ | a, t⟩ <;> rfl)

/-! ### Operations of one statement -/

/-- A statement whose answer is the answer of the operation. -/
theorem outcome_send_return (statement : Store → Except StoreError (α × Store)) (f : α → Answer)
    (s : Store) :
    (do return f (← send statement) : Session Answer).outcome s =
      whole s ((statement s).map fun r => (f r.1, r.2)) := by
  rw [Steps.outcome_bind, outcome_send]
  rcases statement s with e | ⟨a, t⟩ <;> rfl

/-- A statement without an answer. -/
theorem outcome_write_return (statement : Store → Except StoreError Store) (s : Store) :
    (do write statement; return .done : Session Answer).outcome s =
      whole s ((statement s).map Store.withDone) := by
  rw [Steps.outcome_bind, write, outcome_send]
  rcases statement s with e | t <;> rfl

/-! ### Names -/

/-- A row with a name is found or entered, as the operation says. -/
theorem outcome_ensure {find? : Store → Option Int}
    {insert : Store → Except StoreError (Int × Store)}
    {r : Int × Store} (hfound : ∀ i, find? s = some i → r = (i, s))
    (hnew : find? s = none → insert s = .ok r) :
    (ensure find? insert).outcome s = whole s (.ok (Store.withId r)) := by
  rw [ensure, Steps.outcome_bind_of_ok (outcome_select find? s)]
  cases hfind : find? s with
  | some i =>
      rw [hfound i hfind]
      rfl
  | none =>
      refine (outcome_send_return insert Answer.id s).trans ?_
      rw [hnew hfind]
      rfl

theorem any_eq_false_of_find? {β : Type} {p : β → Bool} {xs : List β} (h : xs.find? p = none) :
    xs.any p = false := List.any_eq_false.2 (List.find?_eq_none.1 h)

theorem outcome_ensureAccount (name : String) (s : Store) :
    (Operation.ensureAccount name).session.outcome s =
      whole s (.ok (Store.withId (s.ensureAccount name))) := by
  refine outcome_ensure (fun _ => Store.ensureAccount_of_found) fun hnone => ?_
  rw [Option.map_eq_none_iff] at hnone
  unfold Store.insertAccount Store.ensureAccount
  rw [any_eq_false_of_find? hnone, hnone]
  rfl

theorem outcome_ensureCategory (name : String) (sortOrder : Int) (color : Option String)
    (s : Store) :
    (Operation.ensureCategory name sortOrder color).session.outcome s =
      whole s (.ok (Store.withId (s.ensureCategory name sortOrder color))) := by
  refine outcome_ensure (fun _ => Store.ensureCategory_of_found) fun hnone => ?_
  rw [Option.map_eq_none_iff] at hnone
  unfold Store.insertCategory Store.ensureCategory
  rw [any_eq_false_of_find? hnone, hnone]
  rfl

theorem outcome_ensureTag (name : String) (color : Option String) (s : Store) :
    (Operation.ensureTag name color).session.outcome s =
      whole s (.ok (Store.withId (s.ensureTag name color))) := by
  refine outcome_ensure (fun _ => Store.ensureTag_of_found) fun hnone => ?_
  rw [Option.map_eq_none_iff] at hnone
  unfold Store.insertTag Store.ensureTag
  rw [any_eq_false_of_find? hnone, hnone]
  rfl

/-! ### Statements in a loop -/

/-- A session does what a function says; it is open what is left when it ends early. -/
def Follows (x : Session Unit) (f : Store → Except StoreError Store) : Prop :=
  ∀ s, (∃ t, f s = .ok t ∧ x.outcome s = (.ok (), t)) ∨
    ∃ e t, f s = .error e ∧ x.outcome s = (.error (.refused e), t)

theorem Follows.of_eq_ok {x : Session Unit} {f : Store → Except StoreError Store} {t : Store}
    (h : Follows x f) (hf : f s = .ok t) : x.outcome s = (.ok (), t) := by
  rcases h s with ⟨t', hf', ht⟩ | ⟨e, t', hf', ht⟩
  · cases hf'.symm.trans hf
    exact ht
  · cases hf'.symm.trans hf

theorem Follows.of_eq_error {x : Session Unit} {f : Store → Except StoreError Store}
    {e : StoreError}
    (h : Follows x f) (hf : f s = .error e) : ∃ t, x.outcome s = (.error (.refused e), t) := by
  rcases h s with ⟨t, hf', ht⟩ | ⟨e', t, hf', ht⟩
  · cases hf'.symm.trans hf
  · cases hf'.symm.trans hf
    exact ⟨t, ht⟩

theorem follows_pure : Follows (pure ()) .ok := fun s => .inl ⟨s, rfl, rfl⟩

theorem follows_write (statement : Store → Except StoreError Store) :
    Follows (write statement) statement := by
  intro s
  have h := outcome_send (fun s => (statement s).map ((), ·)) s
  cases hs : statement s with
  | ok t => rw [hs] at h; exact .inl ⟨t, rfl, h⟩
  | error e => rw [hs] at h; exact .inr ⟨e, s, rfl, h⟩

theorem Follows.bind {x y : Session Unit} {f g : Store → Except StoreError Store} (hx : Follows x f)
    (hy : Follows y g) : Follows (x >>= fun _ => y) fun s => f s >>= g := by
  intro s
  rcases hx s with ⟨t, hf, ht⟩ | ⟨e, t, hf, ht⟩
  · simp only [hf, Steps.outcome_bind_of_ok ht]
    exact hy t
  · exact .inr ⟨e, t, congrArg (· >>= g) hf, Steps.outcome_bind_of_error ht⟩

theorem follows_forM {β : Type} {body : β → Session Unit}
    {step : Store → β → Except StoreError Store} (h : ∀ b, Follows (body b) fun s => step s b)
    (bs : List β) : Follows (bs.forM body) fun s => bs.foldlM step s := by
  induction bs with
  | nil => exact follows_pure
  | cons b rest ih =>
      simp only [List.foldlM_cons]
      exact (h b).bind ih

theorem follows_writeMutation (m : Mutation) :
    Follows (writeMutation m) (Store.writeMutation m) := by
  have htags := follows_forM (fun tag => follows_write (Store.attachTag m.transaction tag .rule))
    m.addedTags
  unfold writeMutation Store.writeMutation
  cases m.category with
  | some c => exact (follows_write (Store.categorize m.transaction (some c.after))).bind htags
  | none => exact follows_pure.bind htags

/-- Statements that are taken together do what their function says, or nothing. -/
theorem outcome_together_of_follows {x : Session Unit} {f : Store → Except StoreError Store}
    (h : Follows x f) (a : α) (s : Store) :
    (together do x; return a).outcome s = whole s ((f s).map (a, ·)) := by
  rw [outcome_together]
  cases hf : f s with
  | ok t =>
      rw [Steps.outcome_bind_of_ok (h.of_eq_ok hf)]
      rfl
  | error e =>
      obtain ⟨t, ht⟩ := h.of_eq_error hf
      rw [Steps.outcome_bind_of_error ht]
      rfl

/-! ### Rules with their tags -/

theorem insertId_of_mem {ids : List Int} (h : ids.Pairwise (· < ·)) {i : Int} (hi : i ∈ ids) :
    insertId i ids = ids := by
  induction h with
  | nil => cases hi
  | @cons j rest hj hrest ih =>
      unfold insertId
      rcases List.mem_cons.1 hi with rfl | hi
      · rw [if_neg (by omega), if_pos rfl]
      · have hlt := hj i hi
        rw [if_neg (by omega), if_neg (by omega), ih hi]

variable {d : RuleDraft} {i : Int}

theorem insertRuleTag_withRule (hi : i ∉ s.rules.map Rule.id) {tags : List Int}
    (hsorted : tags.Pairwise (· < ·)) (hthere : ∀ g ∈ tags, s.hasTag g = true) (g : Int) :
    (s.withRule d i tags).insertRuleTag i g =
      if s.hasTag g then .ok (s.withRule d i (insertId g tags)) else .error .foreignKey := by
  have hold : ∀ r ∈ s.rules, r.id ≠ i := fun r hr heq => hi (heq ▸ List.mem_map_of_mem hr)
  have hany : ((s.withRule d i tags).rules.any fun r => r.id == i && r.addTags.contains g) =
      tags.contains g := by
    have hnone : (s.rules.any fun r => r.id == i && r.addTags.contains g) = false := by
      rw [List.any_eq_false]
      intro r hr
      simp [hold r hr]
    show (s.rules ++ [_]).any _ = _
    rw [List.any_append, hnone]
    simp
  unfold Store.insertRuleTag
  rw [hany]
  by_cases hg : g ∈ tags
  · rw [if_pos (by simpa using hg), if_pos (hthere g hg), insertId_of_mem hsorted hg]
    rfl
  · have hrule : ((s.withRule d i tags).rules.any (·.id == i)) = true := by simp [Store.withRule]
    have hmap : (s.withRule d i tags).rules.map (fun r =>
        if r.id = i then { r with addTags := insertId g r.addTags } else r) =
        (s.withRule d i (insertId g tags)).rules := by
      have hid : s.rules.map (fun r =>
          if r.id = i then { r with addTags := insertId g r.addTags } else r) = s.rules := by
        refine (List.map_congr_left fun r hr => ?_).trans s.rules.map_id
        rw [if_neg (hold r hr)]
        rfl
      simp [Store.withRule, hid]
    rw [if_neg (by simpa using hg), hrule]
    show (Store.demand (s.hasTag g) >>= fun _ => _) = _
    cases s.hasTag g with
    | false => rfl
    | true =>
        show Except.ok _ = Except.ok _
        rw [hmap]
        rfl

/-- A rule gets its tags one by one, unless one of them is not there. -/
theorem foldlM_insertRuleTag (hi : i ∉ s.rules.map Rule.id) (gs : List Int) {tags : List Int}
    (hsorted : tags.Pairwise (· < ·)) (hthere : ∀ g ∈ tags, s.hasTag g = true) :
    gs.foldlM (fun s g => s.insertRuleTag i g) (s.withRule d i tags) =
      if gs.all s.hasTag then
        .ok (s.withRule d i (gs.foldl (fun acc g => insertId g acc) tags))
      else .error .foreignKey := by
  induction gs generalizing tags with
  | nil => rfl
  | cons g rest ih =>
      rw [List.foldlM_cons, insertRuleTag_withRule hi hsorted hthere]
      cases hg : s.hasTag g with
      | false => simp [hg]; rfl
      | true =>
          have hthere' : ∀ g' ∈ insertId g tags, s.hasTag g' = true := by
            intro g' hg'
            rcases mem_insertId.1 hg' with rfl | hg'
            · exact hg
            · exact hthere g' hg'
          refine (ih (pairwise_insertId hsorted g) hthere').trans ?_
          simp [hg]

theorem outcome_addRule (d : RuleDraft) (s : Store) :
    (Operation.addRule d).session.outcome s = whole s ((s.addRule d).map Store.withId) := by
  have hinsert := outcome_send (Store.insertRule d) s
  refine (outcome_together _ s).trans ?_
  unfold Store.addRule
  cases hcategory : Store.demandOpt s.hasCategory d.setCategory with
  | error e =>
      rw [Store.insertRule, hcategory] at hinsert
      rw [Steps.outcome_bind_of_error hinsert]
      rfl
  | ok u =>
      rw [Store.insertRule, hcategory] at hinsert
      have hloop := follows_forM (fun tag => follows_write
        (Store.insertRuleTag (Store.freshId (s.rules.map Rule.id)) tag)) d.addTags
      have hfold := foldlM_insertRuleTag (d := d) (Store.freshId_notMem _) d.addTags .nil
        (List.forall_mem_nil (s.hasTag · = true))
      rw [Steps.outcome_bind_of_ok hinsert]
      cases hall : d.addTags.all s.hasTag with
      | true =>
          rw [if_pos hall] at hfold
          rw [Steps.outcome_bind_of_ok (hloop.of_eq_ok hfold)]
          rfl
      | false =>
          rw [if_neg (by simp [hall])] at hfold
          obtain ⟨t, ht⟩ := hloop.of_eq_error hfold
          rw [Steps.outcome_bind_of_error ht]
          rfl

/-! ### Budgets -/

/-- The budget of a category is found again after its amount is changed. -/
theorem find?_map_amount {bs : List Budget} {b : Budget} {c : Int} (amount : Float)
    (h : bs.find? (·.category == c) = some b) :
    (bs.map fun b => if b.category = c then { b with amount := amount } else b).find?
      (·.category == c) = some { b with amount := amount } := by
  have hsame : (fun b : Budget => b.category == c) ∘ (fun b =>
      if b.category = c then { b with amount := amount } else b) = (·.category == c) := by
    funext b'
    dsimp only [Function.comp]
    split <;> rfl
  have hb : b.category = c := by simpa using List.find?_some h
  rw [List.find?_map, hsame, h, Option.map_some, if_pos hb]

/-- A category that got a budget has one. -/
theorem putBudget_cases (c : Int) (x : Float) (s : Store) :
    (∃ t b, s.putBudget c x = .ok t ∧ t.budgetOf? c = some b ∧ s.setBudget c x = .ok (b.id, t)) ∨
      ∃ e, s.putBudget c x = .error e ∧ s.setBudget c x = .error e := by
  unfold Store.putBudget Store.setBudget
  cases Store.keepAmount "category_budgets.amount" x with
  | error e => exact .inr ⟨e, rfl, rfl⟩
  | ok amount =>
      cases hb : s.budgetOf? c with
      | some b =>
          unfold Store.budgetOf? at hb
          have hany : (s.budgets.any (·.category == c)) = true :=
            List.any_eq_true.2 ⟨b, List.mem_of_find?_eq_some hb, by simpa using List.find?_some hb⟩
          rw [hany]
          exact .inl ⟨_, _, rfl, find?_map_amount amount hb, rfl⟩
      | none =>
          unfold Store.budgetOf? at hb
          rw [any_eq_false_of_find? hb]
          cases s.hasCategory c with
          | false => exact .inr ⟨.foreignKey, rfl, rfl⟩
          | true =>
              let b : Budget := ⟨Store.freshId (s.budgets.map Budget.id), c, amount⟩
              have hnew : (s.budgets ++ [b]).find? (·.category == c) = some b := by
                rw [List.find?_append, hb, Option.none_or]
                exact List.find?_cons_of_pos (beq_self_eq_true c)
              exact .inl ⟨_, b, rfl, hnew, rfl⟩

theorem outcome_setBudget (c : Int) (x : Float) (s : Store) :
    (Operation.setBudget c x).session.outcome s = whole s ((s.setBudget c x).map Store.withId) := by
  have houtcome := outcome_send (fun s => (Store.putBudget c x s).map ((), ·)) s
  rcases putBudget_cases c x s with ⟨t, b, hput, hb, hset⟩ | ⟨e, hput, hset⟩
  · rw [hput] at houtcome
    refine (Steps.outcome_bind_of_ok houtcome).trans ?_
    rw [Steps.outcome_bind_of_ok (outcome_select _ t), hb, hset]
    rfl
  · rw [hput] at houtcome
    rw [hset]
    exact Steps.outcome_bind_of_error houtcome

/-- **A session comes to what the operation says,** and leaves nothing behind if it is refused. -/
theorem outcome_session (op : Operation) (s : Store) :
    op.session.outcome s = whole s (s.perform op) := by
  cases op with
  | ensureAccount name => exact outcome_ensureAccount name s
  | ensureCategory name sortOrder color => exact outcome_ensureCategory name sortOrder color s
  | ensureTag name color => exact outcome_ensureTag name color s
  | addTransaction p => exact outcome_send_return _ Answer.id s
  | categorize t c => exact outcome_write_return _ s
  | attachTag t g source => exact outcome_write_return _ s
  | addFilter name expression => exact outcome_send_return _ Answer.id s
  | deleteFilter i => exact outcome_send_return _ Answer.found s
  | addRule d => exact outcome_addRule d s
  | enableRule i b => exact outcome_send_return _ Answer.found s
  | deleteRule i => exact outcome_send_return _ Answer.found s
  | writeMutations ms =>
      exact outcome_together_of_follows (follows_forM follows_writeMutation ms) Answer.done s
  | setBudget c x => exact outcome_setBudget c x s
  | overrideBudget b month x => exact outcome_write_return _ s
  | addTarget name f p x => exact outcome_send_return _ Answer.id s
  | overrideTarget g p x => exact outcome_write_return _ s
  | addOffset c d x => exact outcome_send_return _ Answer.id s

end Session

/-! ### One session after another -/

namespace Store

/-- What sessions answer one after another, and the store after the last of them. -/
def serve (s : Store) : List Operation → List (Except Interruption Answer) × Store
  | [] => ([], s)
  | op :: rest =>
    let first := op.session.outcome s
    let others := serve first.2 rest
    (first.1 :: others.1, others.2)

theorem serve_append (s : Store) (ops ops' : List Operation) :
    s.serve (ops ++ ops') =
      ((s.serve ops).1 ++ ((s.serve ops).2.serve ops').1, ((s.serve ops).2.serve ops').2) := by
  induction ops generalizing s with
  | nil => rfl
  | cons op rest ih =>
      simp only [List.cons_append, serve, ih]

theorem outcome_session_snd (op : Operation) (s : Store) :
    (op.session.outcome s).2 = s.after op := by
  rw [Session.outcome_session, after]
  rcases s.perform op with e | ⟨a, t⟩ <;> rfl

/-- Sessions leave what their operations leave. -/
theorem serve_snd (s : Store) (ops : List Operation) : (s.serve ops).2 = s.run ops := by
  induction ops generalizing s with
  | nil => rfl
  | cons op rest ih =>
      show ((op.session.outcome s).2.serve rest).2 = (s.after op).run rest
      rw [outcome_session_snd, ih]

/-- **An operation that is refused leaves no trace.**  If the session of an operation ends early
then a statement was refused, all tables are as they were, and whatever is asked for afterwards is
answered, down to the ids of new rows, as if the operation had not been asked for. -/
theorem refused_leaves_no_trace {s t : Store} {earlier : List Operation} {op : Operation}
    {why : Interruption} (h : op.session.outcome (s.serve earlier).2 = (.error why, t)) :
    (∃ e, why = .refused e ∧ (s.run earlier).perform op = .error e) ∧ t = s.run earlier ∧
      ∀ later, ∃ answers u, s.serve (earlier ++ later) = ((s.serve earlier).1 ++ answers, u) ∧
        s.serve (earlier ++ op :: later) = ((s.serve earlier).1 ++ .error why :: answers, u) := by
  have hsession := Session.outcome_session op (s.serve earlier).2
  rw [h, serve_snd] at hsession
  cases hperform : (s.run earlier).perform op with
  | ok r =>
      rw [hperform] at hsession
      cases hsession
  | error e =>
      rw [hperform] at hsession
      obtain ⟨rfl, rfl⟩ : why = .refused e ∧ t = s.run earlier := by
        simpa [Session.whole] using hsession
      refine ⟨⟨e, rfl, rfl⟩, rfl, fun later => ⟨_, _, serve_append s earlier later, ?_⟩⟩
      rw [serve_append, serve, h]
      simp only [serve_snd]

/-- Two transactions and a category. -/
def twoPurchases : List Operation :=
  [.addTransaction ⟨none, ⟨2024, 1, 1, by decide⟩, none, "A", -1, none⟩,
    .addTransaction ⟨none, ⟨2024, 1, 2, by decide⟩, none, "B", -1, none⟩,
    .ensureCategory "Coffee" 0 none]

/-- A category for the first transaction, and for the second one a tag that is not there. -/
def unfinishable : List Mutation := [⟨1, some ⟨none, 1⟩, []⟩, ⟨2, none, [4242]⟩]

/-- Nothing is left of changes of which the last one is refused. -/
theorem refused_leaves_no_trace_unfinishable :
    ∃ why t, (Operation.writeMutations unfinishable).session.outcome (empty.serve twoPurchases).2 =
      (.error why, t) ∧ t = empty.run twoPurchases := by
  have hrefused : (empty.run twoPurchases).perform (.writeMutations unfinishable) =
      .error .foreignKey := by
    decide +kernel
  have houtcome : (Operation.writeMutations unfinishable).session.outcome
      (empty.serve twoPurchases).2 = (.error (.refused .foreignKey), empty.run twoPurchases) := by
    rw [serve_snd, Session.outcome_session, hrefused]
    rfl
  exact ⟨_, _, houtcome, (refused_leaves_no_trace houtcome).2.1⟩

-- statement by statement the category would stay
example : ((unfinishable.forM Session.writeMutation).outcome (empty.run twoPurchases)).2 ≠
    empty.run twoPurchases := by
  decide +kernel

end Store

end Coffer
