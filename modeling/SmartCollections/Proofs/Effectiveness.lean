import SmartCollections.Proofs.Outcome
import SmartCollections.Proofs.Stillness

/-!
# No change in vain

A plan is made from one lookup and carried out later, change by change, while other collections are
worked on and some changes fail. Every change that the store makes is in its place all the same: it
makes a difference to a collection of the pass, or deletes one that has become empty.
-/

namespace SmartCollections

open MemoryStore

/-- The change is in its place if its collection has such members. -/
def Mutation.Effective : Mutation → Option StringSet → Prop
  | .create _ items, members => members = none ∧ items ≠ []
  | .add _ item, members => ∃ present, members = some present ∧ item ∉ present
  | .remove _ item, members => ∃ present, members = some present ∧ item ∈ present
  | .delete _, members => members = some .empty

namespace Task

variable {α β : Type} {refusals : List RefusalKey} {members : Option StringSet}

/-- Every change that the task gets made is in its place, starting from the given members. -/
def Apt (refusals : List RefusalKey) : Task α → Option StringSet → Prop
  | .done _, _ => True
  | .lookup name next, members =>
    (next (((cell refusals).members name).run members).1).Apt refusals members
  | .mutate mutation next, members =>
    let called := ((cell refusals).mutate mutation).run members
    (called.1 = .ok () → mutation.Effective members) ∧ (next called.1).Apt refusals called.2

theorem Apt.step {task : Task α} (apt : task.Apt refusals members) :
    let stepped := (task.step (cell refusals)).run members
    stepped.1.Apt refusals stepped.2 := by
  cases task with
  | done value => exact apt
  | lookup name next => exact apt
  | mutate mutation next => exact apt.2

theorem Apt.bind {task : Task α} {next : α → Task β} (first : task.Apt refusals members)
    (rest : let ran := (task.run (cell refusals)).run members
      (next ran.1).Apt refusals ran.2) : (task >>= next).Apt refusals members := by
  change (task.bind next).Apt refusals members
  induction task generalizing members with
  | done value => exact rest
  | lookup name step ih => exact ih _ first rest
  | mutate mutation step ih => exact ⟨first.1, ih _ first.2 rest⟩

theorem Apt.conclude {task : Task α} {next : α → Task β} (first : task.Apt refusals members)
    (ends : ∀ value, ∃ result, next value = .done result) :
    (task >>= next).Apt refusals members := by
  refine first.bind ?_
  dsimp only
  generalize (task.run (cell refusals)).run members = ran
  obtain ⟨result, last⟩ := ends ran.1
  rw [last]
  trivial

theorem Apt.attempt {mutation : Mutation} (effective : mutation.Effective members) :
    (attempt mutation).Apt refusals members := ⟨fun _ => effective, trivial⟩

/-- One change for each of several items is in its place each time, if the changes do not take each
other's place. -/
theorem attemptEach_apt (name : String) (change : String → Mutation)
    (apply : StringSet → String → StringSet) (suits : StringSet → String → Prop)
    (key : ∀ item, (change item).refusalKey = (name, some item))
    (effect : ∀ item members, (change item).effect (some members) = .ok (some (apply members item)))
    (effective : ∀ item members, suits members item → (change item).Effective (some members))
    (keeps : ∀ members item other, other ≠ item → suits members other →
      suits (apply members item) other)
    (refusals : List RefusalKey) {items : List String} (distinct : items.Nodup)
    {members : StringSet} (all : ∀ item ∈ items, suits members item) :
    (attemptEach change items).Apt refusals (some members) := by
  induction items generalizing members with
  | nil => trivial
  | cons item items ih =>
    obtain ⟨stranger, distinct⟩ := List.nodup_cons.1 distinct
    have later : ∀ other ∈ items, suits members other := fun other mem =>
      all other (List.mem_cons_of_mem _ mem)
    have laterChanged : ∀ other ∈ items, suits (apply members item) other := fun other mem =>
      keeps members item other (fun same => stranger (same ▸ mem)) (later other mem)
    refine .bind (.attempt (effective item members (all item List.mem_cons_self))) ?_
    dsimp only
    rw [attempt_cell (key item) (effect item members) refusals]
    by_cases stopped : (name, some item) ∈ refusals
    · rw [if_pos stopped]
      exact .conclude (ih distinct later) fun _ => ⟨_, rfl⟩
    · rw [if_neg stopped]
      exact .conclude (ih distinct laterChanged) fun _ => ⟨_, rfl⟩

theorem attemptEach_add_apt (name : String) (refusals : List RefusalKey) {items : List String}
    (distinct : items.Nodup) {members : StringSet} (strangers : ∀ item ∈ items, item ∉ members) :
    (attemptEach (.add name) items).Apt refusals (some members) :=
  attemptEach_apt name (.add name) StringSet.insert (fun members item => item ∉ members)
    (fun _ => rfl) (fun _ _ => rfl) (fun item members stranger => ⟨members, rfl, stranger⟩)
    (fun members item other different stranger => by simp [different, stranger]) refusals distinct
    strangers

theorem attemptEach_remove_apt (name : String) (refusals : List RefusalKey) {items : List String}
    (distinct : items.Nodup) {members : StringSet} (present : ∀ item ∈ items, item ∈ members) :
    (attemptEach (.remove name) items).Apt refusals (some members) :=
  attemptEach_apt name (.remove name) StringSet.erase (fun members item => item ∈ members)
    (fun _ => rfl) (fun _ _ => rfl) (fun item members member => ⟨members, rfl, member⟩)
    (fun members item other different member => by simp [different, member]) refusals distinct
    present

end Task

namespace Plan

variable {plan : Plan} {refusals : List RefusalKey}

theorem applyNew_apt (gains : plan.toAdd ≠ .empty) : plan.applyNew.Apt refusals none := by
  have items : plan.toAdd.toList ≠ [] := fun none => gains (StringSet.ext none)
  refine .conclude (.attempt ⟨rfl, items⟩) fun outcome => ?_
  cases outcome with
  | ok _ => exact ⟨_, rfl⟩
  | error cause => exact ⟨_, rfl⟩

theorem leaves_emptied {members : StringSet} (permits : plan.failures refusals = [])
    (noAdd : plan.toAdd = .empty) (all : plan.toRemove = members) :
    plan.leaves refusals members = .empty := by
  refine StringSet.ext_mem fun item => ?_
  have free := failures_eq_nil_iff.1 permits item
  rw [mem_leaves, noAdd, all]
  simp only [StringSet.not_mem_empty, false_and, or_false, iff_false]
  rintro ⟨member, kept⟩
  exact kept ⟨member, free (.inr (all ▸ member))⟩

/-- A plan whose additions are strangers to the collection and whose removals are its members is
carried out without a change in vain, and the collection is empty when it is deleted. -/
theorem applyChanges_apt {members : StringSet} (options : Options)
    (strangers : ∀ item ∈ plan.toAdd.toList, item ∉ members)
    (present : ∀ item ∈ plan.toRemove.toList, item ∈ members)
    (emptied : plan.empties = true → plan.toAdd = .empty ∧ plan.toRemove = members) :
    (plan.applyChanges options).Apt refusals (some members) := by
  refine .bind (Task.attemptEach_add_apt plan.collection refusals plan.toAdd.nodup strangers) ?_
  dsimp only
  rw [attemptEach_add_cell]
  -- what has been added does not matter to the removals
  refine .bind (Task.attemptEach_remove_apt plan.collection refusals plan.toRemove.nodup
    fun item mem => StringSet.mem_insertAll.2 (.inl (present item mem))) ?_
  dsimp only
  rw [attemptEach_remove_cell]
  change (if options.removeEmpty && plan.empties && (plan.failures refusals).isEmpty then _
    else _ : Task Report).Apt refusals (some (plan.leaves refusals members))
  split
  · next deletes =>
    simp only [Bool.and_eq_true, List.isEmpty_iff] at deletes
    obtain ⟨⟨_, empties⟩, permits⟩ := deletes
    obtain ⟨noAdd, all⟩ := emptied empties
    rw [leaves_emptied permits noAdd all]
    refine .conclude (.attempt rfl) fun outcome => ?_
    cases outcome with
    | ok _ => exact ⟨_, rfl⟩
    | error cause => exact ⟨_, rfl⟩
  · trivial

end Plan

/-- A plan that is made from the members of a collection, and leaves it without any, removes them
all and adds nothing. -/
theorem reconcile_empties {name : String} {rules : List CompiledRule} {catalog : List Item}
    {members : StringSet} (empties : (reconcile name rules catalog (some members)).empties = true) :
    (reconcile name rules catalog (some members)).toAdd = .empty ∧
      (reconcile name rules catalog (some members)).toRemove = members := by
  have nothing : desiredMembers rules catalog = .empty := by
    simpa [empties, reconcile, StringSet.size_eq_zero_iff, Plan.empties] using empties
  constructor
  · exact StringSet.ext_mem fun item => by simp [reconcile, nothing]
  · exact StringSet.ext_mem fun item => by simp [reconcile, nothing]

/-- The plan that is made from the members of a collection is carried out without a change in
vain. -/
theorem reconcile_apt (refusals : List RefusalKey) (name : String) (rules : List CompiledRule)
    (catalog : List Item) (members : Option StringSet) (options : Options) :
    ((reconcile name rules catalog members).apply options).Apt refusals members := by
  by_cases dry : options.dryRun = true
  · rw [Plan.apply, if_pos dry]
    trivial
  · have real : options.dryRun = false := Bool.eq_false_iff.2 dry
    cases members with
    | none =>
      obtain ⟨toAdd, _, ⟨something, _, applies⟩ | ⟨_, _, applies⟩⟩ :=
        reconcile_missing name rules catalog real
      · rw [applies]
        exact Plan.applyNew_apt fun nothing => something (toAdd.symm.trans nothing)
      · rw [applies]
        trivial
    | some members =>
      obtain ⟨toAdd, toRemove, _, applies⟩ :=
        reconcile_existing name rules catalog members real
      rw [applies]
      refine Plan.applyChanges_apt options (fun item mem => ?_) (fun item mem => ?_)
        reconcile_empties
      · rw [toAdd] at mem
        exact (StringSet.mem_sdiff.1 mem).2
      · rw [toRemove] at mem
        exact (StringSet.mem_sdiff.1 mem).1

/-- The work on a collection makes no change in vain, whatever its members are. -/
theorem Pass.task_apt (pass : Pass) (catalog : List Item) (refusals : List RefusalKey)
    (name : String) (members : Option StringSet) :
    (pass.task catalog name).Apt refusals members := by
  rw [Pass.task, Task.Apt, cell_members_run]
  by_cases stopped : (name, none) ∈ refusals
  · simp only [stopped, if_true]
    trivial
  · simp only [stopped, if_false]
    exact .conclude (reconcile_apt refusals name _ catalog members pass.options) fun _ => ⟨_, rfl⟩

namespace MemoryStore

/-- The store makes these changes one after another, each of them in its place when it is made. -/
inductive Makes (suits : MemoryStore → Mutation → Prop) :
    MemoryStore → List Mutation → MemoryStore → Prop where
  | nothing (s : MemoryStore) : Makes suits s [] s
  | next {s t u : MemoryStore} {mutation : Mutation} {made : List Mutation}
      (suitable : suits s mutation) (call : (store.mutate mutation).run s = (.ok (), t))
      (rest : Makes suits t made u) : Makes suits s (mutation :: made) u

variable {suits : MemoryStore → Mutation → Prop} {s t u : MemoryStore}

theorem Makes.append {first second : List Mutation} (makes : Makes suits s first t)
    (later : Makes suits t second u) : Makes suits s (first ++ second) u := by
  induction makes with
  | nothing s => exact later
  | next suitable call _ ih => exact .next suitable call (ih later)

theorem Makes.imp {others : MemoryStore → Mutation → Prop}
    (weaker : ∀ s mutation, suits s mutation → others s mutation) {made : List Mutation}
    (makes : Makes suits s made t) : Makes others s made t := by
  induction makes with
  | nothing s => exact .nothing s
  | next suitable call _ ih => exact .next (weaker _ _ suitable) call ih

/-- A change is made and put down in the journal, or nothing happens. -/
theorem mutate_either (s : MemoryStore) (mutation : Mutation) :
    (∃ t, (store.mutate mutation).run s = (.ok (), t) ∧ t.journal = s.journal ++ [mutation]) ∨
      ∃ cause, (store.mutate mutation).run s = (.error cause, s) := by
  rw [mutate_run]
  split
  · exact .inr ⟨_, rfl⟩
  · cases mutation.effect (s.collections.get? mutation.collection) with
    | error cause => exact .inr ⟨cause, rfl⟩
    | ok members => exact .inl ⟨_, rfl, rfl⟩

theorem Makes.journal {made : List Mutation} (makes : Makes suits s made t) :
    t.journal = s.journal ++ made := by
  induction makes with
  | nothing s => exact (List.append_nil _).symm
  | @next s t u mutation made _ call _ ih =>
    rcases mutate_either s mutation with ⟨t', called, journal⟩ | ⟨cause, called⟩
    · obtain rfl : t' = t := congrArg Prod.snd (called.symm.trans call)
      rw [ih, journal, List.append_assoc]
      rfl
    · cases called.symm.trans call

/-- The journal says which changes have been made. -/
theorem Makes.of_journal {made written : List Mutation} (makes : Makes suits s made t)
    (journal : t.journal = s.journal ++ written) : Makes suits s written t := by
  obtain rfl : made = written := List.append_cancel_left (makes.journal.symm.trans journal)
  exact makes

end MemoryStore

/-- A change is in its place in a store, and names one of some collections. -/
def InPlace (names : List String) (s : MemoryStore) (mutation : Mutation) : Prop :=
  mutation.Effective (s.collections.get? mutation.collection) ∧ mutation.collection ∈ names

/-- A call of a task makes at most one change. -/
theorem Task.Apt.makes {α : Type} {names : List String} {name : String} {task : Task α}
    {s : MemoryStore} (member : name ∈ names) (concerns : task.Concerns name)
    (apt : task.Apt s.refusals (s.collections.get? name)) :
    ∃ made, Makes (InPlace names) s made ((task.step store).run s).2 := by
  cases concerns with
  | done value => exact ⟨[], .nothing s⟩
  | lookup next rest =>
    have same : ((Task.step store (.lookup name next)).run s).2 = s := by
      simp only [Task.step, run_bind_state, members_run]
      rfl
    rw [same]
    exact ⟨[], .nothing s⟩
  | mutate mutation next named rest =>
    subst named
    have after : ((Task.step store (.mutate mutation next)).run s).2 =
        ((store.mutate mutation).run s).2 := rfl
    rw [after]
    rcases mutate_either s mutation with ⟨t, called, _⟩ | ⟨cause, called⟩
    · have granted := (mutate_local s mutation).1
      rw [called] at granted
      rw [called]
      exact ⟨[mutation], .next ⟨apt.1 granted.symm, member⟩ called (.nothing t)⟩
    · rw [called]
      exact ⟨[], .nothing s⟩

/-- Tasks about distinct collections make no change in vain, whatever turns they take. -/
theorem apt_interleaves {α : Type} (names : List String) :
    Interleaves store
      (fun s (entry : String × Task α) => entry.1 ∈ names ∧ entry.2.Concerns entry.1 ∧
        entry.2.Apt s.refusals (s.collections.get? entry.1))
      fun s t => ∃ made, Makes (InPlace names) s made t where
  refl s := ⟨[], .nothing s⟩
  trans := by
    rintro s t u ⟨first, makes⟩ ⟨second, makesLater⟩
    exact ⟨first ++ second, makes.append makesLater⟩
  step := by
    rintro s name task ⟨member, concerns, apt⟩
    obtain ⟨answer, differs, concernsNext⟩ := step_local concerns s
    refine ⟨apt.makes member concerns, ⟨member, ?_, ?_⟩, ?_⟩
    · rw [answer]
      exact concernsNext
    · rw [answer, differs.refusals, differs.self]
      exact apt.step
    · rintro ⟨other, rest⟩ distinct ⟨otherMember, otherConcerns, otherApt⟩
      refine ⟨otherMember, otherConcerns, ?_⟩
      rw [differs.refusals, differs.other distinct]
      exact otherApt

namespace Pass

theorem run_makes (pass : Pass) (catalog : List Item) (before : MemoryStore) (turns : List Nat) :
    ∃ made, Makes (InPlace pass.rules.collections.toList) before made
      ((pass.run (pure (.ok catalog)) store turns).run before).2 := by
  obtain ⟨makes, _⟩ := Flight.run_labelled (apt_interleaves pass.rules.collections.toList)
    pass.rules.collections.nodup (pass.task catalog)
    (fun name member => ⟨member, pass.task_concerns catalog name, pass.task_apt catalog _ name _⟩)
    pass.options.concurrency turns
  exact makes

theorem run_dry (pass : Pass) (dry : pass.options.dryRun = true) (catalog : List Item)
    (before : MemoryStore) (turns : List Nat) :
    ((pass.run (pure (.ok catalog)) store turns).run before).2 = before := by
  have looks (name : String) :
      ∃ value, (pass.task catalog name).look before.members = some value := by
    rw [task_look]
    cases before.members name with
    | error cause => exact ⟨_, rfl⟩
    | ok members =>
      simp only [Plan.apply, dry, if_true]
      exact ⟨_, rfl⟩
  choose value looked using looks
  have lookups (name : String) : (Stillness.stateful .stateless before).Gives
      (store.members name) (before.members name) := rfl
  obtain ⟨results, gives, _⟩ := Stillness.pass lookups (fun name _ => looked name) turns
  exact congrArg Prod.snd gives

end Pass

/-- What may happen to a store between two passes, another pass included. -/
inductive Occasion where
  | pass (pass : Pass) (fetched : Except HostError (List Item)) (turns : List Nat)
  | lookup (collection : String)
  | mutate (mutation : Mutation)
  | addMembers (collection : String) (items : List String)
  | removeMembers (collection : String) (items : List String)
  | refuse (refusals : List RefusalKey)

namespace Occasion

def run : Occasion → StateM MemoryStore Unit
  | .pass work fetched turns => do let _ ← work.run (pure fetched) store turns
  | .lookup collection => do let _ ← store.members collection
  | .mutate mutation => do let _ ← store.mutate mutation
  | .addMembers collection items => do let _ ← store.addMembers collection items
  | .removeMembers collection items => do let _ ← store.removeMembers collection items
  | .refuse refusals => modify fun s => { s with refusals := refusals }

/-- The store after a number of occasions. -/
def after (history : List Occasion) (start : MemoryStore) : MemoryStore :=
  history.foldl (fun s occasion => (occasion.run.run s).2) start

end Occasion

namespace Pass

/-- Whatever has happened to a store, every change that a pass then puts down in the journal was in
its place when it was made, in a collection that a rule of the pass names. A dry run, and a pass
without a catalog, leave the store as it is. -/
theorem run_in_place (start : MemoryStore) (history : List Occasion) (pass : Pass)
    (fetched : Except HostError (List Item)) (turns : List Nat) :
    let before := Occasion.after history start
    let after := Occasion.after (history ++ [.pass pass fetched turns]) start
    (∃ made, after.journal = before.journal ++ made ∧
      Makes (fun s mutation => mutation.Effective (s.collections.get? mutation.collection) ∧
        ∃ rule ∈ pass.rules.rules, rule.collection = mutation.collection) before made after) ∧
    (pass.options.dryRun = true ∨ (∃ cause, fetched = .error cause) → after = before) := by
  intro before after
  have last : after = ((pass.run (pure fetched) store turns).run before).2 := List.foldl_append
  rw [last]
  cases fetched with
  | error cause =>
    have same : ((pass.run (pure (.error cause)) store turns).run before).2 = before := rfl
    rw [same]
    exact ⟨⟨[], (List.append_nil _).symm, .nothing before⟩, fun _ => rfl⟩
  | ok catalog =>
    constructor
    · obtain ⟨made, makes⟩ := pass.run_makes catalog before turns
      refine ⟨made, makes.journal, makes.imp ?_⟩
      rintro s mutation ⟨effective, member⟩
      exact ⟨effective, mem_collections.1 member⟩
    · rintro (dry | ⟨cause, failed⟩)
      · exact pass.run_dry dry catalog before turns
      · cases failed

/-- The removal of an item is refused, and with it the deletion of its collection; in a dry run
nothing happens at all. -/
theorem run_in_place_refused_removal :
    let rules := RuleSet.compile ⟨[⟨"Thing", "Horror", true⟩, ⟨"Fargo", "Crime", true⟩], []⟩
    let pass : Pass := ⟨rules, { removeEmpty := true }⟩
    let rehearsal : Pass := ⟨rules, { removeEmpty := true, dryRun := true }⟩
    let catalog : List Item := [.titled "A" "The Thing", .titled "B" "Heat"]
    let history : List Occasion :=
      [.mutate (.create "Crime" ["B"]), .addMembers "Crime" ["C"], .pass pass (.ok []) [],
        .mutate (.create "Crime" ["B", "C"]), .refuse [("Crime", some "B")]]
    let before := Occasion.after history ⟨.empty, [], []⟩
    Makes (fun s mutation => mutation.Effective (s.collections.get? mutation.collection) ∧
        ∃ rule ∈ pass.rules.rules, rule.collection = mutation.collection) before
      [.remove "Crime" "C", .create "Horror" ["A"]]
      (Occasion.after (history ++ [.pass pass (.ok catalog) [0, 0]]) ⟨.empty, [], []⟩) ∧
    Occasion.after (history ++ [.pass rehearsal (.ok catalog) [0, 0]]) ⟨.empty, [], []⟩ =
      before := by
  intro rules pass rehearsal catalog history before
  obtain ⟨⟨made, _, makes⟩, _⟩ :=
    run_in_place ⟨.empty, [], []⟩ history pass (.ok catalog) [0, 0]
  obtain ⟨_, still⟩ := run_in_place ⟨.empty, [], []⟩ history rehearsal (.ok catalog) [0, 0]
  exact ⟨makes.of_journal (by decide +kernel), still (.inl rfl)⟩

end Pass

end SmartCollections
