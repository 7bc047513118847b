import SmartCollections.Proofs.Effectiveness
import SmartCollections.Proofs.Honesty

/-!
# How a plan is carried out

A plan need not fit the store: its collection may have vanished since it was made, or come into
being, an item may be in both of its sets, and any change may be refused. It is carried out all the
same, item by item. Each item is accounted for once, and report, journal and collection agree on
what has been done, however much of it has failed.
-/

namespace SmartCollections

open MemoryStore

namespace MemoryStore

variable {suits : MemoryStore → Mutation → Prop} {name : String} {s t : MemoryStore}

/-- A change that was made had the effect that it has on the members of its collection. -/
theorem mutate_made {mutation : Mutation} (call : (store.mutate mutation).run s = (.ok (), t)) :
    mutation.effect (s.collections.get? mutation.collection) =
      .ok (t.collections.get? mutation.collection) := by
  have made := honest.makes mutation s
  rw [call] at made
  exact made rfl

theorem mutate_journal {mutation : Mutation} (call : (store.mutate mutation).run s = (.ok (), t)) :
    t.journal = s.journal ++ [mutation] := by
  have makes : Makes (fun _ _ => True) s [mutation] t := .next trivial call (.nothing t)
  exact makes.journal

theorem mutate_made_iff {mutation : Mutation} :
    ((store.mutate mutation).run s).1 = .ok () ↔ mutation.refusalKey ∉ s.refusals ∧
      ∃ left, mutation.effect (s.collections.get? mutation.collection) = .ok left := by
  rw [mutate_run]
  by_cases refused : mutation.refusalKey ∈ s.refusals
  · simp [refused]
  · cases mutation.effect (s.collections.get? mutation.collection) <;> simp [refused]

theorem mutate_failed {mutation : Mutation} {cause : HostError}
    (answer : ((store.mutate mutation).run s).1 = .error cause) :
    (store.mutate mutation).run s = (.error cause, s) := by
  rcases mutate_either s mutation with ⟨t, called, _⟩ | ⟨other, called⟩
  · rw [called] at answer
    cases answer
  · rw [called] at answer ⊢
    cases answer
    rfl

/-- Changes that were made, one for each of several items, had their effects one after another. -/
theorem Makes.members {change : String → Mutation} {items : List String}
    (makes : Makes suits s (items.map change) t) {members : StringSet}
    (before : s.collections.get? name = some members)
    (names : ∀ item, (change item).collection = name) (apply : StringSet → String → StringSet)
    (effect : ∀ item members,
      (change item).effect (some members) = .ok (some (apply members item))) :
    t.collections.get? name = some (items.foldl apply members) := by
  induction items generalizing s members with
  | nil =>
    cases makes
    exact before
  | cons item items ih =>
    cases makes with
    | @next _ between _ _ _ _ call rest =>
      have made := mutate_made call
      rw [names, before, effect] at made
      exact ih rest (Except.ok.inj made).symm

/-- Items are added to existing collections, and removed from them. -/
theorem Makes.existed {change : String → Mutation} {items : List String}
    (makes : Makes suits s (items.map change) t) (after : t.collections.get? name ≠ none)
    (names : ∀ item, (change item).collection = name)
    (effect : ∀ item, ∃ cause, (change item).effect none = .error cause) :
    s.collections.get? name ≠ none := by
  cases items with
  | nil =>
    cases makes
    exact after
  | cons item items =>
    cases makes with
    | next _ call _ =>
      intro missing
      obtain ⟨cause, fails⟩ := effect item
      have made := mutate_made call
      rw [names, missing, fails] at made
      cases made

/-- The store is asked for a change for each item in turn. Each one is made, or fails and leaves the
store as it is. -/
inductive Attempts (change : String → Mutation) :
    MemoryStore → List String → List String → List Failure → MemoryStore → Prop where
  | nothing (s : MemoryStore) : Attempts change s [] [] [] s
  | made {s t u : MemoryStore} {item : String} {items succeeded : List String}
      {failures : List Failure} (call : (store.mutate (change item)).run s = (.ok (), t))
      (rest : Attempts change t items succeeded failures u) :
      Attempts change s (item :: items) (item :: succeeded) failures u
  | failed {s u : MemoryStore} {item : String} {items succeeded : List String}
      {failures : List Failure} {cause : HostError}
      (call : (store.mutate (change item)).run s = (.error cause, s))
      (rest : Attempts change s items succeeded failures u) :
      Attempts change s (item :: items) succeeded (⟨change item, cause⟩ :: failures) u

end MemoryStore

theorem Task.attemptEach_attempts (change : String → Mutation) (items : List String)
    (s : MemoryStore) :
    let ran := ((attemptEach change items).run store).run s
    Attempts change s items ran.1.1 ran.1.2 ran.2 := by
  induction items generalizing s with
  | nil => exact .nothing s
  | cons item items ih =>
    have first : ((attempt (change item)).run store).run s = (store.mutate (change item)).run s :=
      rfl
    simp only [attemptEach, run_bind, first]
    rcases mutate_either s (change item) with ⟨t, called, _⟩ | ⟨cause, called⟩
    · rw [called]
      exact .made called (ih t)
    · rw [called]
      exact .failed called (ih s)

/-- The items of a set, told apart by whether a change was made for them. Both lists are in
ascending order. -/
structure StringSet.Parted (items : StringSet) (succeeded others : List String) : Prop where
  once : (succeeded ++ others).Perm items.toList
  succeeded : succeeded.Pairwise (· < ·)
  others : others.Pairwise (· < ·)

/-- Both stores refuse the same calls, and the collection is in both of them or in neither. -/
structure MemoryStore.Akin (name : String) (s t : MemoryStore) : Prop where
  refusals : t.refusals = s.refusals
  existence : (t.collections.get? name).isSome = (s.collections.get? name).isSome

namespace MemoryStore

variable {change : String → Mutation} {apply : StringSet → String → StringSet} {name : String}
  {s t u : MemoryStore} {items succeeded : List String} {failures : List Failure}

theorem Akin.refl (name : String) (s : MemoryStore) : Akin name s s := ⟨rfl, rfl⟩

theorem Akin.trans (first : Akin name s t) (second : Akin name t u) : Akin name s u where
  refusals := second.refusals.trans first.refusals
  existence := second.existence.trans first.existence

/-- Whether a change is made depends on the refusals and on the existence of its collection, and not
on its members. -/
theorem Akin.answer {mutation : Mutation} (akin : Akin mutation.collection s t) :
    ((store.mutate mutation).run t).1 = ((store.mutate mutation).run s).1 := by
  have existence := akin.existence
  rw [mutate_run, mutate_run, akin.refusals]
  split
  · rfl
  · cases before : s.collections.get? mutation.collection <;>
      cases after : t.collections.get? mutation.collection <;>
      simp only [before, after, Option.isSome_none, Option.isSome_some, reduceCtorEq] at existence
    · cases mutation <;> rfl
    · cases mutation <;> rfl

/-- The changes are about one item of the collection each. They have an effect on the members, and
none on whether the collection exists. -/
structure Itemwise (name : String) (change : String → Mutation)
    (apply : StringSet → String → StringSet) : Prop where
  key : ∀ item, (change item).refusalKey = (name, some item)
  missing : ∀ item, (change item).effect none = .error (.notFound name)
  present : ∀ item members, (change item).effect (some members) = .ok (some (apply members item))

theorem itemwise_add (name : String) : Itemwise name (.add name) StringSet.insert :=
  ⟨fun _ => rfl, fun _ => rfl, fun _ _ => rfl⟩

theorem itemwise_remove (name : String) : Itemwise name (.remove name) StringSet.erase :=
  ⟨fun _ => rfl, fun _ => rfl, fun _ _ => rfl⟩

namespace Itemwise

theorem names (itemwise : Itemwise name change apply) (item : String) :
    (change item).collection = name := congrArg Prod.fst (itemwise.key item)

/-- Such a change is made if it is not refused and there is a collection. -/
theorem made_iff (itemwise : Itemwise name change apply) (item : String) :
    ((store.mutate (change item)).run s).1 = .ok () ↔
      (name, some item) ∉ s.refusals ∧ s.collections.get? name ≠ none := by
  rw [mutate_made_iff, itemwise.key, itemwise.names]
  cases s.collections.get? name with
  | none => simp [itemwise.missing]
  | some members => simp [itemwise.present]

/-- A change to an item does not alter which changes are made later. -/
theorem akin (itemwise : Itemwise name change apply) {item : String}
    (call : (store.mutate (change item)).run s = (.ok (), t)) : Akin name s t := by
  have differs := (mutate_local s (change item)).2
  have made := mutate_made call
  rw [call] at differs
  rw [itemwise.names] at made
  refine ⟨differs.refusals, ?_⟩
  cases before : s.collections.get? name with
  | none =>
    rw [before, itemwise.missing] at made
    cases made
  | some members =>
    rw [before, itemwise.present] at made
    rw [← Except.ok.inj made]
    rfl

end Itemwise

namespace Attempts

theorem akin (attempts : Attempts change s items succeeded failures t)
    (itemwise : Itemwise name change apply) : Akin name s t := by
  induction attempts with
  | nothing s => exact .refl name s
  | made call _ ih => exact (itemwise.akin call).trans ih
  | failed _ _ ih => exact ih

theorem makes (attempts : Attempts change s items succeeded failures t) :
    Makes (fun _ _ => True) s (succeeded.map change) t := by
  induction attempts with
  | nothing s => exact .nothing s
  | made call _ ih => exact .next trivial call ih
  | failed _ _ ih => exact ih

/-- Each item succeeds or fails, in the order of the items. -/
theorem parts (attempts : Attempts change s items succeeded failures t) :
    ∃ others, failures.map Failure.change = others.map change ∧
      (succeeded ++ others).Perm items ∧ succeeded.Sublist items ∧ others.Sublist items := by
  induction attempts with
  | nothing s => exact ⟨[], rfl, .nil, .slnil, .slnil⟩
  | @made _ _ _ item _ _ _ _ _ ih =>
    obtain ⟨others, named, perm, first, second⟩ := ih
    exact ⟨others, named, perm.cons item, first.cons_cons item, second.cons item⟩
  | @failed _ _ item _ _ _ _ _ _ ih =>
    obtain ⟨others, named, perm, first, second⟩ := ih
    exact ⟨item :: others, congrArg (change item :: ·) named,
      List.perm_middle.trans (perm.cons item), first.cons item, second.cons_cons item⟩

theorem all_made (attempts : Attempts change s items succeeded [] t) :
    succeeded = items ∧ Makes (fun _ _ => True) s (items.map change) t := by
  obtain ⟨others, named, once, order, _⟩ := attempts.parts
  obtain rfl := List.map_eq_nil_iff.1 named.symm
  have all : succeeded = items := order.eq_of_length (by simpa using once.length_eq)
  exact ⟨all, all ▸ attempts.makes⟩

theorem parted {set : StringSet} (attempts : Attempts change s set.toList succeeded failures t) :
    ∃ others, failures.map Failure.change = others.map change ∧ set.Parted succeeded others := by
  obtain ⟨others, named, once, first, second⟩ := attempts.parts
  exact ⟨others, named, once, set.ascending.sublist first, set.ascending.sublist second⟩

/-- Every change is answered as it would be at the outset. -/
theorem answers (attempts : Attempts change s items succeeded failures t)
    (itemwise : Itemwise name change apply) {outset : MemoryStore} (akin : Akin name outset s) :
    (∀ item ∈ succeeded, ((store.mutate (change item)).run outset).1 = .ok ()) ∧
      ∀ failure ∈ failures, failure.change.collection = name ∧
        ((store.mutate failure.change).run outset).1 = .error failure.cause := by
  induction attempts with
  | nothing s => exact ⟨nofun, nofun⟩
  | @made _ _ _ item _ _ _ call _ ih =>
    obtain ⟨later, failed⟩ := ih (akin.trans (itemwise.akin call))
    refine ⟨fun other mem => ?_, failed⟩
    rcases List.mem_cons.1 mem with rfl | mem
    · rw [← itemwise.names other] at akin
      rw [← akin.answer, call]
    · exact later other mem
  | @failed _ _ item _ _ _ _ call _ ih =>
    obtain ⟨succeeded, later⟩ := ih akin
    refine ⟨succeeded, fun failure mem => ?_⟩
    rcases List.mem_cons.1 mem with rfl | mem
    · rw [← itemwise.names item] at akin
      exact ⟨itemwise.names item, by rw [← akin.answer, call]⟩
    · exact later failure mem

/-- The items with success are those that are not refused, if there is a collection. -/
theorem mem_succeeded (attempts : Attempts change s items succeeded failures t)
    (itemwise : Itemwise name change apply) {item : String} :
    item ∈ succeeded ↔
      item ∈ items ∧ (name, some item) ∉ s.refusals ∧ s.collections.get? name ≠ none := by
  obtain ⟨made, failed⟩ := attempts.answers itemwise (.refl name s)
  obtain ⟨others, named, once, first, _⟩ := attempts.parts
  rw [← itemwise.made_iff]
  refine ⟨fun mem => ⟨first.subset mem, made item mem⟩, ?_⟩
  rintro ⟨mem, succeeds⟩
  rcases List.mem_append.1 (once.symm.subset mem) with mem | mem
  · exact mem
  · have told : change item ∈ failures.map Failure.change := named ▸ List.mem_map_of_mem mem
    obtain ⟨failure, told, same⟩ := List.mem_map.1 told
    have fails := (failed failure told).2
    rw [same, succeeds] at fails
    cases fails

/-- The changes that were made are what has become of the collection. -/
theorem members (attempts : Attempts change s items succeeded failures t)
    (itemwise : Itemwise name change apply) :
    t.collections.get? name = (s.collections.get? name).map fun members =>
      succeeded.foldl apply members := by
  cases before : s.collections.get? name with
  | none =>
    have existence := (attempts.akin itemwise).existence
    rw [before] at existence
    exact Option.isNone_iff_eq_none.1 (Option.isSome_eq_false_iff.1 existence)
  | some members => exact attempts.makes.members before itemwise.names apply itemwise.present

end Attempts

end MemoryStore

namespace Plan

/-- The collection is to be deleted in the end, after what has failed. -/
def concludes {α : Type} (plan : Plan) (options : Options) (failed : List α) : Bool :=
  options.removeEmpty && plan.empties && failed.isEmpty

/-- The collection is created with all items, or this fails and nothing is done. -/
structure Creates (plan : Plan) (before : MemoryStore) (report : Report) (after : MemoryStore) :
    Prop where
  outcome :
    report.created = true ∧ report.added = plan.toAdd.toList ∧ report.failures = [] ∧
        after.journal = before.journal ++ [.create plan.collection plan.toAdd.toList] ∧
        after.collections.get? plan.collection = some plan.toAdd ∨
      report.created = false ∧ report.added = [] ∧ after = before ∧
        ∃ cause, report.failures = [⟨.create plan.collection plan.toAdd.toList, cause⟩]
  created_iff : report.created = true ↔
    (plan.collection, none) ∉ before.refusals ∧ before.collections.get? plan.collection = none
  removed : report.removed = []
  deleted : report.deleted = false

/-- Every item is added or removed, or this fails. The journal, the collection and the failures are
what the report says. -/
structure Changes (plan : Plan) (options : Options) (before : MemoryStore) (report : Report)
    (after : MemoryStore) (notAdded notRemoved : List String) : Prop where
  created : report.created = false
  adds : plan.toAdd.Parted report.added notAdded
  removes : plan.toRemove.Parted report.removed notRemoved
  mem_added : ∀ item, item ∈ report.added ↔ item ∈ plan.toAdd ∧
    (plan.collection, some item) ∉ before.refusals ∧
      before.collections.get? plan.collection ≠ none
  mem_removed : ∀ item, item ∈ report.removed ↔ item ∈ plan.toRemove ∧
    (plan.collection, some item) ∉ before.refusals ∧
      before.collections.get? plan.collection ≠ none
  deleted_iff : report.deleted = true ↔ plan.concludes options (notAdded ++ notRemoved) = true ∧
    (plan.collection, none) ∉ before.refusals ∧
      before.collections.get? plan.collection ≠ none
  failures : report.failures.map Failure.change =
    notAdded.map (.add plan.collection) ++ notRemoved.map (.remove plan.collection) ++
      if plan.concludes options (notAdded ++ notRemoved) && !report.deleted then
        [.delete plan.collection] else []
  journal : after.journal = before.journal ++ report.added.map (.add plan.collection) ++
    report.removed.map (.remove plan.collection) ++
      if report.deleted then [.delete plan.collection] else []
  members : after.collections.get? plan.collection =
    if report.deleted then none
    else (before.collections.get? plan.collection).map fun members =>
      (members ∪ .ofList report.added) \ .ofList report.removed

/-- What a report says of a store before and after a plan was carried out. Every failure is the
answer that the store would have given at the outset. -/
structure Executes (plan : Plan) (options : Options) (before : MemoryStore) (report : Report)
    (after : MemoryStore) : Prop where
  same : report.plan = plan
  real : report.dryRun = false
  refusals : after.refusals = before.refusals
  apart : ∀ name, name ≠ plan.collection →
    after.collections.get? name = before.collections.get? name
  failed : ∀ failure ∈ report.failures,
    (store.mutate failure.change).run before = (.error failure.cause, before)
  creates : plan.create = true → plan.Creates before report after
  changes : plan.create = false →
    ∃ notAdded notRemoved, plan.Changes options before report after notAdded notRemoved

/-- What comes after the additions and removals, which have left a store and some failures: nothing,
or the deletion of the collection, which may fail. -/
inductive Closes (plan : Plan) (options : Options) (failures : List Failure)
    (moment : MemoryStore) : Bool → List Failure → MemoryStore → Prop where
  | rests (remains : plan.concludes options failures = false) :
      Closes plan options failures moment false failures moment
  | deletes {after : MemoryStore} (concludes : plan.concludes options failures = true)
      (call : (store.mutate (.delete plan.collection)).run moment = (.ok (), after)) :
      Closes plan options failures moment true [] after
  | fails {cause : HostError} (concludes : plan.concludes options failures = true)
      (call : (store.mutate (.delete plan.collection)).run moment = (.error cause, moment)) :
      Closes plan options failures moment false [⟨.delete plan.collection, cause⟩] moment

/-- The additions are attempted first, then the removals, and the deletion last. -/
theorem applyChanges_run (plan : Plan) (options : Options) (before : MemoryStore) :
    let ran := ((plan.applyChanges options).run store).run before
    ran.1.plan = plan ∧ ran.1.dryRun = false ∧ ran.1.created = false ∧
    ∃ notAdded notRemoved between moment,
      Attempts (.add plan.collection) before plan.toAdd.toList ran.1.added notAdded between ∧
      Attempts (.remove plan.collection) between plan.toRemove.toList ran.1.removed notRemoved
        moment ∧
      plan.Closes options (notAdded ++ notRemoved) moment ran.1.deleted ran.1.failures ran.2 := by
  have adds := Task.attemptEach_attempts (.add plan.collection) plan.toAdd.toList before
  simp only [applyChanges, Task.run_bind]
  generalize ((Task.attemptEach (.add plan.collection) plan.toAdd.toList).run store).run before =
    adding at adds ⊢
  obtain ⟨⟨added, notAdded⟩, between⟩ := adding
  have removes := Task.attemptEach_attempts (.remove plan.collection) plan.toRemove.toList between
  dsimp only at adds removes ⊢
  generalize ((Task.attemptEach (.remove plan.collection) plan.toRemove.toList).run store).run
    between = removing at removes ⊢
  obtain ⟨⟨removed, notRemoved⟩, moment⟩ := removing
  dsimp only at removes ⊢
  split
  · next concludes =>
    have last : ((Task.attempt (.delete plan.collection)).run store).run moment =
        (store.mutate (.delete plan.collection)).run moment := rfl
    simp only [Task.run_bind, last]
    rcases mutate_either moment (.delete plan.collection) with ⟨after, called, _⟩ | ⟨cause, called⟩
    · rw [called]
      exact ⟨rfl, rfl, rfl, notAdded, notRemoved, between, moment, adds, removes,
        .deletes concludes called⟩
    · rw [called]
      exact ⟨rfl, rfl, rfl, notAdded, notRemoved, between, moment, adds, removes,
        .fails concludes called⟩
  · next remains =>
    exact ⟨rfl, rfl, rfl, notAdded, notRemoved, between, moment, adds, removes,
      .rests (Bool.eq_false_iff.2 remains)⟩

/-- A creation is made, or it is the only failure. -/
theorem applyNew_run (plan : Plan) (before : MemoryStore) :
    let creation : Mutation := .create plan.collection plan.toAdd.toList
    (∃ after, (store.mutate creation).run before = (.ok (), after) ∧
      (plan.applyNew.run store).run before =
        (⟨plan, false, true, false, plan.toAdd.toList, [], []⟩, after)) ∨
    ∃ cause, (store.mutate creation).run before = (.error cause, before) ∧
      (plan.applyNew.run store).run before =
        (⟨plan, false, false, false, [], [], [⟨creation, cause⟩]⟩, before) := by
  intro creation
  have call : ((Task.attempt creation).run store).run before = (store.mutate creation).run before :=
    rfl
  simp only [applyNew, Task.run_bind]
  change (∃ after, _ ∧ _ = _) ∨ ∃ cause, _ ∧ _ = _
  rcases mutate_either before creation with ⟨after, called, _⟩ | ⟨cause, called⟩
  · refine .inl ⟨after, called, ?_⟩
    rw [call, called]
    rfl
  · refine .inr ⟨cause, called, ?_⟩
    rw [call, called]
    rfl

theorem creation_made_iff {plan : Plan} {before : MemoryStore} :
    ((store.mutate (.create plan.collection plan.toAdd.toList)).run before).1 = .ok () ↔
      (plan.collection, none) ∉ before.refusals ∧
        before.collections.get? plan.collection = none := by
  rw [mutate_made_iff]
  refine and_congr_right fun _ => ?_
  simp only [Mutation.collection]
  cases before.collections.get? plan.collection <;> simp [Mutation.effect]

theorem deletion_made_iff {name : String} {s : MemoryStore} :
    ((store.mutate (.delete name)).run s).1 = .ok () ↔
      (name, none) ∉ s.refusals ∧ s.collections.get? name ≠ none := by
  rw [mutate_made_iff]
  refine and_congr_right fun _ => ?_
  simp only [Mutation.collection]
  cases s.collections.get? name <;> simp [Mutation.effect]

/-- A collection is created if it does not exist and this is not refused. -/
theorem applyNew_creates (plan : Plan) (before : MemoryStore) :
    let ran := (plan.applyNew.run store).run before
    ran.1.plan = plan ∧ ran.1.dryRun = false ∧ plan.Creates before ran.1 ran.2 ∧
      ∀ failure ∈ ran.1.failures,
        ((store.mutate failure.change).run before).1 = .error failure.cause := by
  have made_iff := @creation_made_iff plan before
  rcases plan.applyNew_run before with ⟨after, called, ran⟩ | ⟨cause, called, ran⟩
  · rw [called] at made_iff
    have left := mutate_made called
    simp only [Mutation.collection, (made_iff.1 rfl).2, Mutation.effect, StringSet.ofList_toList]
      at left
    rw [ran]
    exact ⟨rfl, rfl, ⟨.inl ⟨rfl, rfl, rfl, mutate_journal called, (Except.ok.inj left).symm⟩,
      ⟨fun _ => made_iff.1 rfl, fun _ => rfl⟩, rfl, rfl⟩,
      fun failure mem => absurd mem List.not_mem_nil⟩
  · rw [called] at made_iff
    rw [ran]
    refine ⟨rfl, rfl, ⟨.inr ⟨rfl, rfl, rfl, cause, rfl⟩, ?_, rfl, rfl⟩, ?_⟩
    · simpa using made_iff
    · intro failure mem
      cases List.mem_singleton.1 mem
      rw [called]

theorem concludes_congr {α β : Type} {plan : Plan} {options : Options} {failed : List α}
    {others : List β} (same : failed.length = others.length) :
    plan.concludes options failed = plan.concludes options others := by
  have empty : failed.isEmpty = others.isEmpty := by
    rw [Bool.eq_iff_iff, List.isEmpty_iff_length_eq_zero, List.isEmpty_iff_length_eq_zero, same]
  rw [concludes, concludes, empty]

theorem nil_of_concludes {plan : Plan} {options : Options} {failures : List Failure}
    (concludes : plan.concludes options failures = true) : failures = [] := by
  rw [Plan.concludes, Bool.and_eq_true, List.isEmpty_iff] at concludes
  exact concludes.2

/-- A deletion that is told of was made, after all other changes. -/
theorem Closes.deletion {plan : Plan} {options : Options} {failures told : List Failure}
    {moment after : MemoryStore} (closes : plan.Closes options failures moment true told after) :
    plan.empties = true ∧ failures = [] ∧
      (store.mutate (.delete plan.collection)).run moment = (.ok (), after) := by
  cases closes with
  | deletes concludes call =>
    simp only [Plan.concludes, Bool.and_eq_true, List.isEmpty_iff] at concludes
    exact ⟨concludes.1.2, concludes.2, call⟩

theorem Closes.ends {plan : Plan} {options : Options} {failures told : List Failure}
    {moment after : MemoryStore} {deleted : Bool}
    (closes : plan.Closes options failures moment deleted told after) :
    (deleted = true ↔ plan.concludes options failures = true ∧
      (plan.collection, none) ∉ moment.refusals ∧
        moment.collections.get? plan.collection ≠ none) ∧
    told.map Failure.change = failures.map Failure.change ++
      (if plan.concludes options failures && !deleted then [.delete plan.collection] else []) ∧
    after.journal = moment.journal ++ (if deleted then [.delete plan.collection] else []) ∧
    after.collections.get? plan.collection =
      (if deleted then none else moment.collections.get? plan.collection) ∧
    ∀ failure ∈ told, failure ∈ failures ∨ failure.change = .delete plan.collection ∧
      ((store.mutate failure.change).run moment).1 = .error failure.cause := by
  cases closes with
  | rests remains =>
    exact ⟨by simp [remains], by simp [remains], by simp, rfl, fun failure mem => .inl mem⟩
  | deletes concludes call =>
    have permitted := deletion_made_iff.1 (congrArg Prod.fst call)
    have left := mutate_made call
    obtain rfl := nil_of_concludes concludes
    refine ⟨⟨fun _ => ⟨concludes, permitted⟩, fun _ => rfl⟩, by simp, mutate_journal call, ?_,
      nofun⟩
    cases before : moment.collections.get? plan.collection with
    | none => exact absurd before permitted.2
    | some members =>
      simp only [Mutation.collection, before, Mutation.effect] at left
      exact (Except.ok.inj left).symm
  | fails concludes call =>
    have made_iff := @deletion_made_iff plan.collection moment
    rw [call] at made_iff
    obtain rfl := nil_of_concludes concludes
    refine ⟨by simpa [concludes] using made_iff, by simp [concludes], by simp, rfl, ?_⟩
    intro failure mem
    cases List.mem_singleton.1 mem
    exact .inr ⟨rfl, congrArg Prod.fst call⟩

/-- Every item of the plan is accounted for, and so is every change to the store. -/
theorem applyChanges_changes (plan : Plan) (options : Options) (before : MemoryStore) :
    let ran := ((plan.applyChanges options).run store).run before
    ran.1.plan = plan ∧ ran.1.dryRun = false ∧
      (∃ notAdded notRemoved, plan.Changes options before ran.1 ran.2 notAdded notRemoved) ∧
      ∀ failure ∈ ran.1.failures,
        ((store.mutate failure.change).run before).1 = .error failure.cause := by
  obtain ⟨same, real, created, addFailures, removeFailures, between, moment, adds, removes,
    closes⟩ := plan.applyChanges_run options before
  have adding := itemwise_add plan.collection
  have removing := itemwise_remove plan.collection
  obtain ⟨notAdded, addsNamed, addsParted⟩ := adds.parted
  obtain ⟨notRemoved, removesNamed, removesParted⟩ := removes.parted
  have akin := adds.akin adding
  have akinLater := akin.trans (removes.akin removing)
  obtain ⟨deleted_iff, told, journal, members, failed⟩ := closes.ends
  have named : (addFailures ++ removeFailures).map Failure.change =
      notAdded.map (.add plan.collection) ++ notRemoved.map (.remove plan.collection) := by
    rw [List.map_append, addsNamed, removesNamed]
  have concludes : plan.concludes options (addFailures ++ removeFailures) =
      plan.concludes options (notAdded ++ notRemoved) :=
    concludes_congr (by simpa using congrArg List.length named)
  refine ⟨same, real, ⟨notAdded, notRemoved, created, addsParted, removesParted, ?_, ?_, ?_, ?_, ?_,
    ?_⟩, ?_⟩
  · exact fun item => adds.mem_succeeded adding
  · intro item
    rw [removes.mem_succeeded removing, akin.refusals, ← Option.isSome_iff_ne_none, akin.existence,
      Option.isSome_iff_ne_none]
    rfl
  · rw [deleted_iff, concludes, akinLater.refusals, ← Option.isSome_iff_ne_none,
      akinLater.existence, Option.isSome_iff_ne_none]
  · rw [told, named, concludes]
  · rw [journal, removes.makes.journal, adds.makes.journal]
  · rw [members, removes.members removing, adds.members adding, Option.map_map]
    simp only [Function.comp_def, StringSet.foldl_erase_foldl_insert]
  · intro failure mem
    rcases failed failure mem with mem | ⟨deletion, answer⟩
    · rcases List.mem_append.1 mem with mem | mem
      · exact ((adds.answers adding (.refl _ before)).2 failure mem).2
      · exact ((removes.answers removing akin).2 failure mem).2
    · rw [deletion] at answer ⊢
      have last : Akin (Mutation.delete plan.collection).collection before moment := akinLater
      rw [← last.answer, answer]

/-- Every plan is carried out item by item, whether it fits the store or not and whatever is
refused: each item is reported once, as done or as a failure, and the report agrees with the journal
and with what is left of the collection. No other collection is touched. -/
theorem apply_executes (plan : Plan) {options : Options} (real : options.dryRun = false)
    (before : MemoryStore) :
    let ran := ((plan.apply options).run store).run before
    plan.Executes options before ran.1 ran.2 := by
  obtain ⟨_, differs⟩ := run_local (plan.apply_concerns options) before
  intro ran
  have apart : ∀ name, name ≠ plan.collection →
      ran.2.collections.get? name = before.collections.get? name := fun name => differs.other
  cases creates : plan.create with
  | true =>
    have new : plan.apply options = plan.applyNew := by simp [apply, real, creates]
    obtain ⟨same, notDry, created, failed⟩ := plan.applyNew_creates before
    rw [← new] at same notDry created failed
    exact ⟨same, notDry, differs.refusals, apart,
      fun failure mem => mutate_failed (failed failure mem), fun _ => created,
      fun old => by simp [creates] at old⟩
  | false =>
    have old : plan.apply options = plan.applyChanges options := by simp [apply, real, creates]
    obtain ⟨same, notDry, changed, failed⟩ := plan.applyChanges_changes options before
    rw [← old] at same notDry changed failed
    exact ⟨same, notDry, differs.refusals, apart,
      fun failure mem => mutate_failed (failed failure mem), fun new => by simp [creates] at new,
      fun _ => changed⟩

/-- The collection gets an item that the plan removes again, and loses another one. One addition and
one removal are refused, which also keeps the collection from being deleted. -/
theorem apply_executes_overlap :
    let plan : Plan :=
      ⟨"C", true, false, 0, .ofList ["1", "2", "3"], .ofList ["3", "4", "5"]⟩
    let options : Options := { removeEmpty := true }
    let before : MemoryStore :=
      ⟨.ofList [("C", .ofList ["4", "5", "6"]), ("D", .ofList ["1"])],
        [("C", some "2"), ("C", some "5"), ("D", none)], []⟩
    let ran := ((plan.apply options).run store).run before
    options.dryRun = false ∧ ran.1.added = ["1", "3"] ∧ ran.1.removed = ["3", "4"] ∧
      ran.1.failures.map Failure.change = [.add "C" "2", .remove "C" "5"] ∧
      ran.2.journal = [.add "C" "1", .add "C" "3", .remove "C" "3", .remove "C" "4"] ∧
      ran.2.collections.get? "C" = some (.ofList ["1", "5", "6"]) ∧
      ran.2.collections.get? "D" = some (.ofList ["1"]) := by
  intro plan options before ran
  have executes : plan.Executes options before ran.1 ran.2 := apply_executes plan rfl before
  obtain ⟨notAdded, notRemoved, changes⟩ := executes.changes rfl
  have added : ran.1.added = ["1", "3"] := by decide +kernel
  have removed : ran.1.removed = ["3", "4"] := by decide +kernel
  have kept : ran.1.deleted = false := by decide +kernel
  refine ⟨rfl, added, removed, by decide +kernel, ?_, ?_, ?_⟩
  · rw [changes.journal, added, removed, kept]
    rfl
  · rw [changes.members, added, removed, kept]
    decide +kernel
  · rw [executes.apart "D" (by decide +kernel)]
    decide +kernel

end Plan

end SmartCollections
