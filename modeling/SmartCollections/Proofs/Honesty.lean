import SmartCollections.Proofs.Durability
import SmartCollections.Proofs.Likeness
import SmartCollections.Proofs.Outcome

/-!
# Honest stores

A store may refuse any call at any time, for reasons of its own. It is honest if it tells of a
lookup what it holds, and if it says of a change that it was made only when it was. What a refused
change has left of its collection may be anything. The reports of a pass can then be taken at their
word: where they tell of no failure, the collections have the members that they should have.
-/

namespace SmartCollections

/-- What the store says is so, as far as it does not refuse to say it. No call touches a collection
that it does not name. -/
structure Store.Honest {σ : Type} (store : Store (StateM σ))
    (holds : σ → String → Option StringSet) : Prop where
  keeps (collection : String) (s : σ) : holds ((store.members collection).run s).2 = holds s
  tells (collection : String) (s : σ) (members : Option StringSet) :
    ((store.members collection).run s).1 = .ok members → members = holds s collection
  makes (mutation : Mutation) (s : σ) :
    ((store.mutate mutation).run s).1 = .ok () →
      mutation.effect (holds s mutation.collection) =
        .ok (holds ((store.mutate mutation).run s).2 mutation.collection)
  apart (mutation : Mutation) (s : σ) (name : String) : name ≠ mutation.collection →
    holds ((store.mutate mutation).run s).2 name = holds s name

/-- A store in memory is honest, whatever it refuses. -/
theorem MemoryStore.honest : store.Honest fun s name => s.collections.get? name where
  keeps collection s := by rw [members_run]
  tells collection s members told := by
    rw [members_run] at told
    split at told
    · cases told
    · exact (Except.ok.inj told).symm
  makes mutation s made := by
    rw [mutate_run] at made ⊢
    by_cases refused : mutation.refusalKey ∈ s.refusals
    · rw [if_pos refused] at made
      cases made
    · rw [if_neg refused] at made ⊢
      cases effect : mutation.effect (s.collections.get? mutation.collection) with
      | error error =>
        rw [effect] at made
        cases made
      | ok members => simp
  apart mutation s name distinct := (mutate_local s mutation).2.other distinct

/-- Whatever the disk does, a change is made in the memory as it was asked for, or not at all. -/
theorem FileStore.mutate_either {δ : Type} (disk : Disk (StateM δ)) (s : FileStore)
    (mutation : Mutation) (d : δ) :
    let after := (((store disk).mutate mutation).run s).run d
    (∃ error, after.1 = (.error error, s)) ∨
      ∃ left, mutation.effect (s.collections.get? mutation.collection) = .ok left ∧
        after.1 =
          (.ok (), { s with collections := s.collections.assign mutation.collection left }) := by
  intro after
  simp only [after, mutate_run rfl, Collections.change_eq]
  cases mutation.effect (s.collections.get? mutation.collection) with
  | error error => exact .inl ⟨error, rfl⟩
  | ok left =>
    dsimp only [Except.map]
    split
    · next error _ => exact .inl ⟨error, rfl⟩
    · exact .inr ⟨left, rfl, rfl⟩

/-- A file store is honest, whatever becomes of its disk. -/
theorem FileStore.honest {δ : Type} (disk : Disk (StateM δ)) :
    (store disk).packed.Honest fun s name => s.1.collections.get? name where
  keeps collection s := rfl
  tells collection s members told := (Except.ok.inj told).symm
  makes mutation s made := by
    obtain ⟨s, d⟩ := s
    change ((((store disk).mutate mutation).run s).run d).1.1 = .ok () at made
    change _ = Except.ok (((((store disk).mutate mutation).run s).run d).1.2.collections.get? _)
    rcases mutate_either disk s mutation d with ⟨error, failed⟩ | ⟨left, effect, done⟩
    · rw [failed] at made
      cases made
    · rw [effect, done, Collections.get?_assign, if_pos rfl]
  apart mutation s name distinct := by
    obtain ⟨s, d⟩ := s
    change ((((store disk).mutate mutation).run s).run d).1.2.collections.get? _ = _
    rcases mutate_either disk s mutation d with ⟨error, failed⟩ | ⟨left, _, done⟩
    · rw [failed]
    · rw [done, Collections.get?_assign, if_neg distinct]

namespace Task

variable {α β : Type} {post : α → Option StringSet → Prop} {members : Option StringSet}

/-- Whatever an honest store refuses, the task ends with a result and with members of its collection
for which `post` holds. -/
def Assures (post : α → Option StringSet → Prop) : Task α → Option StringSet → Prop
  | done value, members => post value members
  | lookup _ next, members =>
    (next (.ok members)).Assures post members ∧ ∀ cause, (next (.error cause)).Assures post members
  | mutate mutation next, members =>
    (∀ left, mutation.effect members = .ok left → (next (.ok ())).Assures post left) ∧
      ∀ cause left, (next (.error cause)).Assures post left

theorem Assures.all (task : Task α) (members : Option StringSet) :
    task.Assures (fun _ _ => True) members := by
  induction task generalizing members with
  | done value => trivial
  | lookup name next ih => exact ⟨ih _ members, fun cause => ih _ members⟩
  | mutate mutation next ih => exact ⟨fun left _ => ih _ left, fun cause left => ih _ left⟩

theorem Assures.imp {task : Task α} {goal : α → Option StringSet → Prop}
    (assures : task.Assures post members)
    (weaker : ∀ value left, post value left → goal value left) : task.Assures goal members := by
  induction task generalizing members with
  | done value => exact weaker value members assures
  | lookup name next ih => exact ⟨ih _ assures.1, fun cause => ih _ (assures.2 cause)⟩
  | mutate mutation next ih =>
    exact ⟨fun left made => ih _ (assures.1 left made),
      fun cause left => ih _ (assures.2 cause left)⟩

theorem Assures.bind {task : Task α} {next : α → Task β} {goal : β → Option StringSet → Prop}
    (first : task.Assures post members)
    (rest : ∀ value left, post value left → (next value).Assures goal left) :
    (task >>= next).Assures goal members := by
  change (task.bind next).Assures goal members
  induction task generalizing members with
  | done value => exact rest value members first
  | lookup name step ih => exact ⟨ih _ first.1, fun cause => ih _ (first.2 cause)⟩
  | mutate mutation step ih =>
    exact ⟨fun left made => ih _ (first.1 left made), fun cause left => ih _ (first.2 cause left)⟩

theorem Assures.attempt (mutation : Mutation) (members : Option StringSet) :
    (attempt mutation).Assures
      (fun outcome left => outcome = .ok () → mutation.effect members = .ok left) members :=
  ⟨fun _ made _ => made, fun _ _ => nofun⟩

/-- If no item has failed, all changes have been made, one after another. -/
theorem attemptEach_assures (change : String → Mutation) (apply : StringSet → String → StringSet)
    (effect : ∀ item members, (change item).effect (some members) = .ok (some (apply members item)))
    (items : List String) (members : StringSet) :
    (attemptEach change items).Assures
      (fun outcome left => outcome.2 = [] → left = some (items.foldl apply members))
      (some members) := by
  induction items generalizing members with
  | nil => exact fun _ => rfl
  | cons item items ih =>
    refine (Assures.attempt (change item) (some members)).bind fun outcome left made => ?_
    cases outcome with
    | ok _ =>
      have changed := made rfl
      rw [effect] at changed
      cases changed
      exact (ih (apply members item)).bind fun later final done => done
    | error cause =>
      -- one failure is told, whatever becomes of the other items
      exact (Assures.all _ left).bind fun later final _ => nofun

end Task

namespace Plan

theorem applyNew_assures (plan : Plan) :
    plan.applyNew.Assures (fun report left => report.failures = [] → left = some plan.toAdd)
      none := by
  refine (Task.Assures.attempt _ none).bind fun outcome left made => ?_
  cases outcome with
  | ok _ =>
    cases made rfl
    intro _
    rw [StringSet.ofList_toList]
  | error cause => exact nofun

/-- The members of a collection after all changes of a plan. -/
def meant (plan : Plan) (members : StringSet) : StringSet :=
  plan.toRemove.toList.foldl StringSet.erase (members.insertAll plan.toAdd.toList)

theorem mem_meant {plan : Plan} {members : StringSet} {item : String} :
    item ∈ plan.meant members ↔ (item ∈ members ∨ item ∈ plan.toAdd) ∧ item ∉ plan.toRemove := by
  rw [meant, mem_foldl_erase, StringSet.mem_insertAll]
  rfl

/-- An existing collection of which no failure is told has the members it was meant to have. One
that was deleted counts as empty. -/
theorem applyChanges_assures {plan : Plan} {options : Options} {members : StringSet}
    (emptied : plan.empties = true → plan.meant members = .empty) :
    (plan.applyChanges options).Assures
      (fun report left => report.failures = [] → left.getD .empty = plan.meant members)
      (some members) := by
  have adding := Task.attemptEach_assures (.add plan.collection) StringSet.insert (fun _ _ => rfl)
    plan.toAdd.toList members
  refine adding.bind fun outcome between allAdded => ?_
  obtain ⟨added, notAdded⟩ := outcome
  let removals := Task.attemptEach (.remove plan.collection) plan.toRemove.toList
  have removing : removals.Assures (fun outcome left =>
      notAdded ++ outcome.2 = [] → left = some (plan.meant members)) between := by
    by_cases failed : notAdded = []
    · rw [allAdded failed, failed]
      exact Task.attemptEach_assures (.remove plan.collection) StringSet.erase (fun _ _ => rfl)
        plan.toRemove.toList _
    · refine (Task.Assures.all removals between).imp fun outcome left _ none => ?_
      exact absurd (List.append_eq_nil_iff.1 none).1 failed
  refine removing.bind fun outcome left allRemoved => ?_
  obtain ⟨removed, notRemoved⟩ := outcome
  dsimp only at allRemoved ⊢
  split
  · next deletes =>
    simp only [Bool.and_eq_true, List.isEmpty_iff] at deletes
    obtain ⟨⟨_, empties⟩, none⟩ := deletes
    refine (Task.Assures.attempt _ left).bind fun outcome final gone => ?_
    cases outcome with
    | ok _ =>
      have deleted := gone rfl
      rw [allRemoved none] at deleted
      cases deleted
      exact fun _ => (emptied empties).symm
    | error cause => exact nofun
  · intro none
    rw [allRemoved none]
    rfl

end Plan

/-- The plan that is made from the members of a collection leaves it with the members it should
have, or a failure is told. -/
theorem reconcile_assures (name : String) (rules : List CompiledRule) (catalog : List Item)
    (members : Option StringSet) {options : Options} (real : options.dryRun = false) :
    ((reconcile name rules catalog members).apply options).Assures
      (fun report left => report.failures = [] → left.getD .empty = desiredMembers rules catalog)
      members := by
  cases members with
  | none =>
    obtain ⟨toAdd, _, ⟨_, _, applies⟩ | ⟨nothing, _, applies⟩⟩ :=
      reconcile_missing name rules catalog real
    · rw [applies]
      refine (Plan.applyNew_assures _).imp fun report left created none => ?_
      rw [created none, toAdd]
      rfl
    · rw [applies]
      exact fun _ => nothing.symm
  | some members =>
    obtain ⟨toAdd, toRemove, empties, applies⟩ := reconcile_existing name rules catalog members real
    have meant : (reconcile name rules catalog (some members)).meant members =
        desiredMembers rules catalog := by
      refine StringSet.ext_mem fun item => ?_
      rw [Plan.mem_meant, toAdd, toRemove, StringSet.mem_sdiff, StringSet.mem_sdiff]
      grind
    rw [applies, ← meant]
    exact Plan.applyChanges_assures fun emptied => meant.trans (empties.1 emptied)

namespace Pass

/-- What a report without a failure says about the members of its collection. -/
def Trusty (pass : Pass) (catalog : List Item) (name : String) (result : Except PassError Report)
    (left : Option StringSet) : Prop :=
  ∀ report, result = .ok report → report.failures = [] →
    left.getD .empty = desiredMembers (pass.rules.rulesFor name) catalog

theorem task_assures {pass : Pass} (real : pass.options.dryRun = false) (catalog : List Item)
    (name : String) (members : Option StringSet) :
    (pass.task catalog name).Assures (pass.Trusty catalog name) members := by
  refine ⟨?_, fun cause report => nofun⟩
  refine (reconcile_assures name _ catalog members real).bind fun report left reached => ?_
  intro told same none
  cases same
  exact reached none

end Pass

section

variable {σ α : Type} {store : Store (StateM σ)} {holds : σ → String → Option StringSet}

/-- What the next call of a task about a collection comes to at an honest store, and from which
state to which. -/
inductive Task.Answered (store : Store (StateM σ)) (holds : σ → String → Option StringSet)
    (name : String) (s t : σ) : Task α → Task α → Prop where
  | ended (value : α) (same : holds t = holds s) :
      Answered store holds name s t (.done value) (.done value)
  | told (next : Except HostError (Option StringSet) → Task α) (same : holds t = holds s) :
      Answered store holds name s t (.lookup name next) (next (.ok (holds s name)))
  | withheld (next : Except HostError (Option StringSet) → Task α) (cause : HostError)
      (same : holds t = holds s) :
      Answered store holds name s t (.lookup name next) (next (.error cause))
  | made (mutation : Mutation) (next : Except HostError Unit → Task α)
      (effect : mutation.effect (holds s name) = .ok (holds t name))
      (apart : ∀ other, other ≠ name → holds t other = holds s other) :
      Answered store holds name s t (.mutate mutation next) (next (.ok ()))
  | refused (mutation : Mutation) (next : Except HostError Unit → Task α) (cause : HostError)
      (names : mutation.collection = name)
      (call : (store.mutate mutation).run s = (.error cause, t))
      (apart : ∀ other, other ≠ name → holds t other = holds s other) :
      Answered store holds name s t (.mutate mutation next) (next (.error cause))

theorem Store.Honest.answers (honest : store.Honest holds) {name : String} {task : Task α}
    (concerns : task.Concerns name) (s : σ) :
    let stepped := (task.step store).run s
    Task.Answered store holds name s stepped.2 task stepped.1 := by
  cases concerns with
  | done value => exact .ended value rfl
  | lookup next rest =>
    have kept := honest.keeps name s
    have told := honest.tells name s
    rcases answered : (store.members name).run s with ⟨answer, after⟩
    have stepped : (Task.step store (.lookup name next)).run s = (next answer, after) := by
      simp only [Task.step, run_bind_state, answered]
      rfl
    rw [answered] at kept told
    rw [stepped]
    cases answer with
    | ok members =>
      obtain rfl := told members rfl
      exact .told next kept
    | error cause => exact .withheld next cause kept
  | mutate mutation next names rest =>
    subst names
    have made := honest.makes mutation s
    have apart := honest.apart mutation s
    rcases answered : (store.mutate mutation).run s with ⟨answer, after⟩
    have stepped : (Task.step store (.mutate mutation next)).run s = (next answer, after) := by
      simp only [Task.step, run_bind_state, answered]
      rfl
    rw [answered] at made apart
    rw [stepped]
    cases answer with
    | ok _ => exact .made mutation next (made rfl) apart
    | error cause => exact .refused mutation next cause rfl answered apart

theorem Task.Answered.concerns {name : String} {s t : σ} {task rest : Task α}
    (answered : Answered store holds name s t task rest) (concerns : task.Concerns name) :
    rest.Concerns name := by
  cases answered with
  | ended value _ => exact concerns
  | told next _ =>
    cases concerns with
    | lookup _ rest => exact rest _
  | withheld next cause _ =>
    cases concerns with
    | lookup _ rest => exact rest _
  | made mutation next _ _ =>
    cases concerns with
    | mutate _ _ _ rest => exact rest _
  | refused mutation next cause _ _ _ =>
    cases concerns with
    | mutate _ _ _ rest => exact rest _

theorem Task.Answered.elsewhere {name : String} {s t : σ} {task rest : Task α}
    (answered : Answered store holds name s t task rest) :
    ∀ other, other ≠ name → holds t other = holds s other := by
  cases answered with
  | ended value same => exact fun other _ => congrFun same other
  | told next same => exact fun other _ => congrFun same other
  | withheld next cause same => exact fun other _ => congrFun same other
  | made mutation next effect apart => exact apart
  | refused mutation next cause names call apart => exact apart

theorem Task.Assures.step {post : α → Option StringSet → Prop} {name : String} {s t : σ}
    {task rest : Task α} (answered : Answered store holds name s t task rest)
    (assures : task.Assures post (holds s name)) : rest.Assures post (holds t name) := by
  cases answered with
  | ended value same => exact same ▸ assures
  | told next same => exact same ▸ assures.1
  | withheld next cause same => exact same ▸ assures.2 cause
  | made mutation next effect apart => exact assures.1 _ effect
  | refused mutation next cause names call apart => exact assures.2 cause _

/-- Tasks about distinct collections do not break what is assured of each other. -/
theorem Store.Honest.interleaves (honest : store.Honest holds)
    (post : String → α → Option StringSet → Prop) :
    Interleaves store
      (fun s entry => entry.2.Concerns entry.1 ∧ entry.2.Assures (post entry.1) (holds s entry.1))
      fun _ _ => True where
  refl _ := trivial
  trans _ _ := trivial
  step := by
    rintro s name task ⟨concerns, assures⟩
    have answered := honest.answers concerns s
    refine ⟨trivial, ⟨answered.concerns concerns, assures.step answered⟩, ?_⟩
    rintro ⟨other, rest⟩ distinct ⟨otherConcerns, otherAssures⟩
    refine ⟨otherConcerns, ?_⟩
    rw [answered.elsewhere other distinct]
    exact otherAssures

end

/-- After a pass, a collection whose report tells of no failure has the members it should have. -/
theorem Pass.flight_trusty {σ : Type} {store : Store (StateM σ)}
    {holds : σ → String → Option StringSet} (honest : store.Honest holds) {pass : Pass}
    (real : pass.options.dryRun = false) (catalog : List Item) (turns : List Nat) (s : σ) :
    let ran := ((Flight.start pass.options.concurrency (pass.tasks catalog)).run store turns).run s
    ∀ name ∈ pass.rules.collections, ∃ result ∈ ran.1,
      pass.Trusty catalog name result (holds ran.2 name) := by
  intro ran name member
  obtain ⟨_, ended, results, named, trusty⟩ :=
    Flight.run_labelled (honest.interleaves (pass.Trusty catalog)) pass.rules.collections.nodup
      (pass.task catalog)
      (fun name _ =>
        ⟨pass.task_concerns catalog name, task_assures real catalog name (holds s name)⟩)
      pass.options.concurrency turns
  obtain ⟨entry, mem, rfl⟩ := List.mem_map.1 (named.symm.subset member)
  exact ⟨entry.2, results ▸ List.mem_map.2 ⟨entry, mem, rfl⟩, (trusty entry mem).2⟩

end SmartCollections
