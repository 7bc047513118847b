import SmartCollections.Pass
import SmartCollections.Proofs.Schedule

/-!
# What a pass leaves behind

A pass works on every collection that a rule names as if it were alone with it. What becomes of the
members of a collection is therefore settled by what they were, what they should be, and which calls
are refused. This module says what a plan does to its collection, and what a pass does to them all.
-/

namespace SmartCollections

open MemoryStore

/-- The items that a collection can be given, and that can be taken from it. -/
def permitted (refusals : List RefusalKey) (name : String) (items : List String) : List String :=
  items.filter fun item => (name, some item) ∉ refusals

/-- The failures for the other items. -/
def refused (refusals : List RefusalKey) (name : String) (change : String → Mutation)
    (items : List String) : List Failure :=
  (items.filter fun item => (name, some item) ∈ refusals).map fun item =>
    ⟨change item, refusal (name, some item)⟩

theorem mem_permitted {refusals : List RefusalKey} {name item : String} {items : List String} :
    item ∈ permitted refusals name items ↔ item ∈ items ∧ (name, some item) ∉ refusals := by
  simp [permitted]

theorem refused_eq_nil_iff {refusals : List RefusalKey} {name : String}
    {change : String → Mutation} {items : List String} :
    refused refusals name change items = [] ↔ ∀ item ∈ items, (name, some item) ∉ refusals := by
  simp [refused]

theorem permitted_cons (refusals : List RefusalKey) (name item : String) (items : List String) :
    permitted refusals name (item :: items) =
      if (name, some item) ∈ refusals then permitted refusals name items
      else item :: permitted refusals name items := by
  by_cases stopped : (name, some item) ∈ refusals <;> simp [permitted, stopped]

theorem refused_cons (refusals : List RefusalKey) (name item : String)
    (change : String → Mutation) (items : List String) :
    refused refusals name change (item :: items) =
      if (name, some item) ∈ refusals then
        ⟨change item, refusal (name, some item)⟩ :: refused refusals name change items
      else refused refusals name change items := by
  by_cases stopped : (name, some item) ∈ refusals <;> simp [refused, stopped]

/-- A change to a member is made unless it is refused. -/
theorem attempt_cell {name item : String} {mutation : Mutation} {members next : StringSet}
    (key : mutation.refusalKey = (name, some item))
    (effect : mutation.effect (some members) = .ok (some next)) (refusals : List RefusalKey) :
    ((Task.attempt mutation).run (cell refusals)).run (some members) =
      if (name, some item) ∈ refusals then (.error (refusal (name, some item)), some members)
      else (.ok (), some next) := by
  have call := cell_mutate_run refusals mutation (some members)
  rw [key, effect] at call
  exact call

/-- Each item is attempted once, whatever became of the items before it. -/
theorem attemptEach_cell (name : String) (change : String → Mutation)
    (apply : StringSet → String → StringSet)
    (key : ∀ item, (change item).refusalKey = (name, some item))
    (effect : ∀ item members, (change item).effect (some members) = .ok (some (apply members item)))
    (refusals : List RefusalKey) (items : List String) (members : StringSet) :
    ((Task.attemptEach change items).run (cell refusals)).run (some members) =
      ((permitted refusals name items, refused refusals name change items),
        some ((permitted refusals name items).foldl apply members)) := by
  induction items generalizing members with
  | nil => rfl
  | cons item items ih =>
    have first := attempt_cell (key item) (effect item members) refusals
    simp only [Task.attemptEach, Task.run_bind, first, permitted_cons, refused_cons]
    by_cases stopped : (name, some item) ∈ refusals
    · simp only [stopped, if_true, ih]
      rfl
    · simp only [stopped, if_false, ih]
      rfl

theorem attemptEach_add_cell (name : String) (refusals : List RefusalKey) (items : List String)
    (members : StringSet) :
    ((Task.attemptEach (.add name) items).run (cell refusals)).run (some members) =
      ((permitted refusals name items, refused refusals name (.add name) items),
        some (members.insertAll (permitted refusals name items))) :=
  attemptEach_cell name (.add name) StringSet.insert (fun _ => rfl) (fun _ _ => rfl) refusals items
    members

theorem attemptEach_remove_cell (name : String) (refusals : List RefusalKey) (items : List String)
    (members : StringSet) :
    ((Task.attemptEach (.remove name) items).run (cell refusals)).run (some members) =
      ((permitted refusals name items, refused refusals name (.remove name) items),
        some ((permitted refusals name items).foldl StringSet.erase members)) :=
  attemptEach_cell name (.remove name) StringSet.erase (fun _ => rfl) (fun _ _ => rfl) refusals
    items
    members

theorem mem_foldl_erase {members : StringSet} {items : List String} {item : String} :
    item ∈ items.foldl StringSet.erase members ↔ item ∈ members ∧ item ∉ items := by
  induction items generalizing members with
  | nil => simp
  | cons first items ih =>
    rw [List.foldl_cons, ih, StringSet.mem_erase, List.mem_cons]
    grind

/-- Items are added, and then removed, one after another. -/
theorem StringSet.foldl_erase_foldl_insert (members : StringSet) (added removed : List String) :
    removed.foldl erase (added.foldl insert members) =
      (members ∪ ofList added) \ ofList removed := by
  refine ext_mem fun item => ?_
  rw [mem_foldl_erase, mem_sdiff, mem_union, mem_ofList, mem_ofList]
  exact and_congr_left fun _ => mem_insertAll

namespace Plan

theorem applyNew_concerns (plan : Plan) : plan.applyNew.Concerns plan.collection := by
  refine .bind (.attempt rfl) fun outcome => ?_
  cases outcome <;> exact .done _

theorem attemptEach_concerns {name : String} (change : String → Mutation)
    (names : ∀ item, (change item).collection = name) (items : List String) :
    (Task.attemptEach change items).Concerns name := by
  induction items with
  | nil => exact .done _
  | cons item items ih =>
    refine .bind (.attempt (names item)) fun outcome => .bind ih fun later => ?_
    obtain ⟨succeeded, failures⟩ := later
    cases outcome <;> exact .done _

theorem applyChanges_concerns (plan : Plan) (options : Options) :
    (plan.applyChanges options).Concerns plan.collection := by
  have adding := attemptEach_concerns (.add plan.collection) (fun _ => rfl) plan.toAdd.toList
  have removing := attemptEach_concerns (.remove plan.collection) (fun _ => rfl)
    plan.toRemove.toList
  refine adding.bind fun ⟨added, notAdded⟩ => removing.bind fun ⟨removed, notRemoved⟩ => ?_
  dsimp only
  split
  · refine .bind (.attempt rfl) fun outcome => ?_
    cases outcome <;> exact .done _
  · exact .done _

/-- Carrying out a plan concerns its collection alone. -/
theorem apply_concerns (plan : Plan) (options : Options) :
    (plan.apply options).Concerns plan.collection := by
  rw [apply]
  split
  · exact .done _
  · split
    · exact plan.applyNew_concerns
    · exact plan.applyChanges_concerns options

/-- A new collection gets all items at once, or is refused as a whole. -/
theorem applyNew_cell (plan : Plan) (refusals : List RefusalKey) :
    (plan.applyNew.run (cell refusals)).run none =
      if (plan.collection, none) ∈ refusals then
        (⟨plan, false, false, false, [], [],
          [⟨.create plan.collection plan.toAdd.toList, refusal (plan.collection, none)⟩]⟩, none)
      else (⟨plan, false, true, false, plan.toAdd.toList, [], []⟩, some plan.toAdd) := by
  have call : ((Task.attempt (.create plan.collection plan.toAdd.toList)).run (cell refusals)).run
      none = if (plan.collection, none) ∈ refusals
        then (.error (refusal (plan.collection, none)), none)
        else (.ok (), some (.ofList plan.toAdd.toList)) := cell_mutate_run _ _ _
  by_cases stopped : (plan.collection, none) ∈ refusals
  · simp only [applyNew, Task.run_bind, call, stopped, if_true]
    rfl
  · simp only [applyNew, Task.run_bind, call, stopped, if_false, StringSet.ofList_toList]
    rfl

/-- The members of an existing collection after the changes that are permitted. -/
def leaves (plan : Plan) (refusals : List RefusalKey) (members : StringSet) : StringSet :=
  (permitted refusals plan.collection plan.toRemove.toList).foldl StringSet.erase
    (members.insertAll (permitted refusals plan.collection plan.toAdd.toList))

/-- The changes that are not permitted. -/
def failures (plan : Plan) (refusals : List RefusalKey) : List Failure :=
  refused refusals plan.collection (.add plan.collection) plan.toAdd.toList ++
    refused refusals plan.collection (.remove plan.collection) plan.toRemove.toList

theorem applyChanges_cell (plan : Plan) (options : Options) (refusals : List RefusalKey)
    (members : StringSet) :
    ((plan.applyChanges options).run (cell refusals)).run (some members) =
      let added := permitted refusals plan.collection plan.toAdd.toList
      let removed := permitted refusals plan.collection plan.toRemove.toList
      if options.removeEmpty && plan.empties && (plan.failures refusals).isEmpty then
        if (plan.collection, none) ∈ refusals then
          (⟨plan, false, false, false, added, removed,
            [⟨.delete plan.collection, refusal (plan.collection, none)⟩]⟩,
            some (plan.leaves refusals members))
        else (⟨plan, false, false, true, added, removed, []⟩, none)
      else (⟨plan, false, false, false, added, removed, plan.failures refusals⟩,
        some (plan.leaves refusals members)) := by
  have deleting : ((Task.attempt (.delete plan.collection)).run (cell refusals)).run
      (some (plan.leaves refusals members)) = if (plan.collection, none) ∈ refusals
        then (.error (refusal (plan.collection, none)), some (plan.leaves refusals members))
        else (.ok (), none) := cell_mutate_run _ _ _
  simp only [applyChanges, Task.run_bind, attemptEach_add_cell, attemptEach_remove_cell]
  change ((if options.removeEmpty && plan.empties && (plan.failures refusals).isEmpty then _
    else _ : Task Report).run (cell refusals)).run (some (plan.leaves refusals members)) = _
  split
  · by_cases stopped : (plan.collection, none) ∈ refusals
    · simp only [Task.run_bind, deleting, stopped, if_true]
      rfl
    · simp only [Task.run_bind, deleting, stopped, if_false]
      rfl
  · rfl

/-- The report on a plan when there was nothing to do. -/
def idle (plan : Plan) : Report := ⟨plan, false, false, false, [], [], []⟩

/-- A plan without changes makes no call, unless the collection is to be deleted. -/
theorem applyChanges_nothing {plan : Plan} {options : Options} (noAdd : plan.toAdd = .empty)
    (noRemove : plan.toRemove = .empty) (keeps : (options.removeEmpty && plan.empties) = false) :
    plan.applyChanges options = .done plan.idle := by
  simp only [applyChanges, noAdd, noRemove, keeps, Bool.false_and, Bool.false_eq_true, if_false]
  rfl

theorem mem_leaves {plan : Plan} {refusals : List RefusalKey} {members : StringSet}
    {item : String} :
    item ∈ plan.leaves refusals members ↔
      (item ∈ members ∨ item ∈ plan.toAdd ∧ (plan.collection, some item) ∉ refusals) ∧
        ¬ (item ∈ plan.toRemove ∧ (plan.collection, some item) ∉ refusals) := by
  rw [leaves, mem_foldl_erase, StringSet.mem_insertAll, mem_permitted, mem_permitted]
  rfl

theorem failures_eq_nil_iff {plan : Plan} {refusals : List RefusalKey} :
    plan.failures refusals = [] ↔
      ∀ item, item ∈ plan.toAdd ∨ item ∈ plan.toRemove →
        (plan.collection, some item) ∉ refusals := by
  rw [failures, List.append_eq_nil_iff, refused_eq_nil_iff, refused_eq_nil_iff]
  exact ⟨fun h item => Or.rec (h.1 item) (h.2 item),
    fun h => ⟨fun item hitem => h item (.inl hitem), fun item hitem => h item (.inr hitem)⟩⟩

end Plan

/-- The plan for a missing collection either creates it, or there is nothing to do. -/
theorem reconcile_missing (name : String) (rules : List CompiledRule) (catalog : List Item)
    {options : Options} (real : options.dryRun = false) :
    let plan := reconcile name rules catalog none
    let desired := desiredMembers rules catalog
    plan.toAdd = desired ∧ plan.toRemove = .empty ∧
      (desired ≠ .empty ∧ plan.create = true ∧ plan.apply options = plan.applyNew ∨
        desired = .empty ∧ plan.create = false ∧ plan.apply options = .done plan.idle) := by
  intro plan desired
  have toAdd : plan.toAdd = desired :=
    StringSet.ext_mem fun item => by simp [plan, desired, reconcile]
  have toRemove : plan.toRemove = .empty :=
    StringSet.ext_mem fun item => by simp [plan, reconcile]
  have create : plan.create = !desired.isEmpty := by simp [plan, desired, reconcile]
  refine ⟨toAdd, toRemove, ?_⟩
  by_cases nothing : desired = .empty
  · have noCreate : plan.create = false := by simp [create, StringSet.isEmpty_iff, nothing]
    have keeps : (options.removeEmpty && plan.empties) = false := by
      simp [Plan.empties, plan, reconcile]
    refine .inr ⟨nothing, noCreate, ?_⟩
    simp only [Plan.apply, real, noCreate, Bool.false_eq_true, if_false]
    exact Plan.applyChanges_nothing (toAdd.trans nothing) toRemove keeps
  · have creates : plan.create = true := by
      rw [create, Bool.not_eq_true', Bool.eq_false_iff]
      exact mt StringSet.isEmpty_iff.1 nothing
    exact .inl ⟨nothing, creates, by simp [Plan.apply, real, creates]⟩

/-- The plan for an existing collection makes up the difference. -/
theorem reconcile_existing (name : String) (rules : List CompiledRule) (catalog : List Item)
    (members : StringSet) {options : Options} (real : options.dryRun = false) :
    let plan := reconcile name rules catalog (some members)
    let desired := desiredMembers rules catalog
    plan.toAdd = desired \ members ∧ plan.toRemove = members \ desired ∧
      (plan.empties = true ↔ desired = .empty) ∧
      plan.apply options = plan.applyChanges options := by
  intro plan desired
  refine ⟨rfl, rfl, ?_, ?_⟩
  · simp [Plan.empties, plan, desired, reconcile, StringSet.size_eq_zero_iff]
  · simp [Plan.apply, real, plan, reconcile]

/-- The items of a set that may be added to a collection, or removed from it. -/
def StringSet.free (items : StringSet) (refusals : List RefusalKey) (name : String) : StringSet :=
  .ofList (permitted refusals name items.toList)

theorem StringSet.mem_free {items : StringSet} {refusals : List RefusalKey} {name item : String} :
    item ∈ items.free refusals name ↔ item ∈ items ∧ (name, some item) ∉ refusals := by
  rw [free, mem_ofList, mem_permitted]
  rfl

namespace Pass

/-- What a pass makes of a collection that some rule names. A refused lookup leaves it alone. A
missing collection comes into being with all it should have, unless that is nothing. An existing one
gets what it lacks and loses what it should not have, as far as each item may be added or removed;
it is deleted, if the options say so, when it should have no members and can lose all it has. -/
def leaves (pass : Pass) (catalog : List Item) (refusals : List RefusalKey) (name : String)
    (members : Option StringSet) : Option StringSet :=
  let desired := desiredMembers (pass.rules.rulesFor name) catalog
  if (name, none) ∈ refusals then members
  else match members with
    | none => if desired = .empty then none else some desired
    | some members =>
      if pass.options.removeEmpty = true ∧ desired = .empty ∧
          members.toList.all (fun item => (name, some item) ∉ refusals) = true then none
      else some
        ((members ∪ (desired \ members).free refusals name) \
          (members \ desired).free refusals name)

theorem task_concerns (pass : Pass) (catalog : List Item) (name : String) :
    (pass.task catalog name).Concerns name := by
  refine .lookup _ fun answer => ?_
  cases answer with
  | error cause => exact .done _
  | ok members =>
    let plan := reconcile name (pass.rules.rulesFor name) catalog members
    exact (plan.apply_concerns pass.options).bind fun report => .done _

/-- The work on one collection: a lookup, and then the plan that it leads to. -/
theorem task_cell (pass : Pass) (catalog : List Item) (refusals : List RefusalKey) (name : String)
    (members : Option StringSet) :
    ((pass.task catalog name).run (cell refusals)).run members =
      if (name, none) ∈ refusals then
        (.error (.membership name (refusal (name, none))), members)
      else
        let plan := reconcile name (pass.rules.rulesFor name) catalog members
        let applied := ((plan.apply pass.options).run (cell refusals)).run members
        (.ok applied.1, applied.2) := by
  by_cases stopped : (name, none) ∈ refusals
  · simp only [task, Task.run, run_bind_state, cell_members_run, stopped, if_true]
    rfl
  · simp only [task, Task.run, run_bind_state, cell_members_run, stopped, if_false]
    exact Task.run_bind _ _ _ _

/-- Carrying out the plan for a missing collection. -/
theorem apply_missing {pass : Pass} (real : pass.options.dryRun = false) (catalog : List Item)
    {refusals : List RefusalKey} {name : String} (permits : (name, none) ∉ refusals) :
    let plan := reconcile name (pass.rules.rulesFor name) catalog none
    (((plan.apply pass.options).run (cell refusals)).run none).2 =
      pass.leaves catalog refusals name none := by
  intro plan
  simp only [leaves, permits, if_false]
  obtain ⟨toAdd, _, ⟨something, _, applies⟩ | ⟨nothing, _, applies⟩⟩ :=
    reconcile_missing name (pass.rules.rulesFor name) catalog real
  · have created := plan.applyNew_cell refusals
    have named : plan.collection = name := rfl
    rw [named, if_neg permits, toAdd] at created
    rw [applies, created, if_neg something]
  · rw [applies, if_pos nothing]
    rfl

/-- Carrying out the plan for an existing collection. -/
theorem apply_existing {pass : Pass} (real : pass.options.dryRun = false) (catalog : List Item)
    {refusals : List RefusalKey} {name : String} (permits : (name, none) ∉ refusals)
    (members : StringSet) :
    let plan := reconcile name (pass.rules.rulesFor name) catalog (some members)
    (((plan.apply pass.options).run (cell refusals)).run (some members)).2 =
      pass.leaves catalog refusals name (some members) := by
  intro plan
  simp only [leaves, permits, if_false]
  have named : plan.collection = name := rfl
  obtain ⟨toAdd, toRemove, empties, applies⟩ :=
    reconcile_existing name (pass.rules.rulesFor name) catalog members real
  change plan.toAdd = _ at toAdd
  change plan.toRemove = _ at toRemove
  change plan.empties = true ↔ _ at empties
  change plan.apply _ = _ at applies
  generalize desiredMembers (pass.rules.rulesFor name) catalog = desired at toAdd toRemove empties ⊢
  have left : plan.leaves refusals members =
      (members ∪ (desired \ members).free refusals name) \
        (members \ desired).free refusals name := by
    refine StringSet.ext_mem fun item => ?_
    simp only [Plan.mem_leaves, named, toAdd, toRemove, StringSet.mem_sdiff, StringSet.mem_union,
      StringSet.mem_free]
  -- with nothing desired, only removals can fail, one for each member
  have deletes : (pass.options.removeEmpty && plan.empties && (plan.failures refusals).isEmpty) =
        true ↔
      pass.options.removeEmpty = true ∧ desired = .empty ∧
        members.toList.all (fun item => (name, some item) ∉ refusals) = true := by
    rw [Bool.and_eq_true, Bool.and_eq_true, empties, List.isEmpty_iff, Plan.failures_eq_nil_iff,
      named, toAdd, toRemove, and_assoc]
    refine and_congr_right fun _ => and_congr_right fun nothing => ?_
    simp [nothing, ← StringSet.mem_def]
  rw [applies, plan.applyChanges_cell, left]
  by_cases last : pass.options.removeEmpty = true ∧ desired = .empty ∧
      members.toList.all (fun item => (name, some item) ∉ refusals) = true
  · simp only [deletes.2 last, if_true, named, permits, if_false]
    rw [if_pos last]
  · simp only [mt deletes.1 last, Bool.false_eq_true, if_false]
    rw [if_neg last]

/-- The work on one collection leaves what the pass is to make of it. -/
theorem task_leaves {pass : Pass} (real : pass.options.dryRun = false) (catalog : List Item)
    (refusals : List RefusalKey) (name : String) (members : Option StringSet) :
    (((pass.task catalog name).run (cell refusals)).run members).2 =
      pass.leaves catalog refusals name members := by
  rw [task_cell]
  by_cases stopped : (name, none) ∈ refusals
  · simp [leaves, stopped]
  · simp only [stopped, if_false]
    cases members with
    | none => exact apply_missing real catalog stopped
    | some members => exact apply_existing real catalog stopped members

/-- What a pass tells, and the store it leaves, come from the turns of its tasks. -/
theorem run_fetched {σ : Type} (pass : Pass) (catalog : List Item) (store : Store (StateM σ))
    (turns : List Nat) (s : σ) :
    (pass.run (pure (.ok catalog)) store turns).run s =
      let ran := ((Flight.start pass.options.concurrency (pass.tasks catalog)).run store turns).run s
      (pass.events catalog ran.1, ran.2) := rfl

theorem mem_collections {rules : CompiledRules} {name : String} :
    name ∈ rules.collections ↔ ∃ rule ∈ rules.rules, rule.collection = name := by
  rw [CompiledRules.collections, StringSet.mem_ofList, List.mem_map]

/-- A pass makes of every collection that a rule names what it is to make of it. -/
theorem run_members (pass : Pass) (real : pass.options.dryRun = false) (catalog : List Item)
    (before : MemoryStore) (turns : List Nat) :
    let after := ((pass.run (pure (.ok catalog)) MemoryStore.store turns).run before).2
    after.refusals = before.refusals ∧
      ∀ name, after.collections.get? name =
        if name ∈ pass.rules.collections then
          pass.leaves catalog before.refusals name (before.collections.get? name)
        else before.collections.get? name := by
  have settled := Flight.run_settles pass.rules.collections.nodup (pass.task_concerns catalog)
    before pass.options.concurrency turns
  rw [run_fetched]
  refine ⟨settled.refusals, fun name => ?_⟩
  by_cases member : name ∈ pass.rules.collections
  · rw [if_pos member, ← task_leaves real]
    exact settled.members name member
  · rw [if_neg member]
    exact settled.others name member

/-- Whatever is refused on the way, and whatever turns the tasks take, a pass over any store makes
of every collection that a rule names what it is to make of it, and leaves all others alone. -/
theorem run_leaves (pass : Pass) (real : pass.options.dryRun = false) (catalog : List Item)
    (before : MemoryStore) (turns : List Nat) :
    let after := ((pass.run (pure (.ok catalog)) MemoryStore.store turns).run before).2
    after.refusals = before.refusals ∧
      (∀ rule ∈ pass.rules.rules,
        after.collections.get? rule.collection =
          pass.leaves catalog before.refusals rule.collection
            (before.collections.get? rule.collection)) ∧
      ∀ name, (∀ rule ∈ pass.rules.rules, rule.collection ≠ name) →
        after.collections.get? name = before.collections.get? name := by
  obtain ⟨refusals, members⟩ := pass.run_members real catalog before turns
  refine ⟨refusals, ?_, ?_⟩
  · intro rule hrule
    rw [members, if_pos (mem_collections.2 ⟨rule, hrule, rfl⟩)]
  · intro name unnamed
    rw [members, if_neg]
    intro member
    obtain ⟨rule, hrule, heq⟩ := mem_collections.1 member
    exact unnamed rule hrule heq

/-- A member that may not be removed stays, and so does the collection, while its other members are
replaced. -/
theorem run_leaves_refused_removal :
    let pass : Pass :=
      ⟨RuleSet.compile ⟨[⟨"Thing", "Horror", true⟩], []⟩, { removeEmpty := true }⟩
    let before : MemoryStore :=
      ⟨.ofList [("Horror", .ofList ["B", "C"])], [("Horror", some "B")], []⟩
    let catalog : List Item := [.titled "A" "The Thing", .titled "B" "Heat"]
    pass.options.dryRun = false ∧
      ((pass.run (pure (.ok catalog)) MemoryStore.store [0, 0]).run before).2.collections.get?
        "Horror" = some (.ofList ["A", "B"]) := by
  intro pass before catalog
  have named : ⟨.title 0, "Horror", some (.contains .title "Thing"), true⟩ ∈ pass.rules.rules := by
    decide +kernel
  refine ⟨rfl, ((run_leaves pass rfl catalog before [0, 0]).2.1 _ named).trans ?_⟩
  decide +kernel

end Pass

end SmartCollections
