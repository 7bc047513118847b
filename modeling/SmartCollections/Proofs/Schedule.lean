import SmartCollections.Proofs.Interleaving

/-!
# Schedules

Tasks about distinct collections do not notice each other. Whatever turns they take, each one comes
to the result that it comes to alone, and leaves its collection as it leaves it alone.
-/

namespace SmartCollections.Flight

open MemoryStore

variable {α : Type}

/-- What a task comes to when nobody else is at the store, and what it makes of its collection. -/
def alone (task : String → Task α) (before : MemoryStore) (name : String) : α × Option StringSet :=
  ((task name).run (cell before.refusals)).run (before.collections.get? name)

/-- What is left of a task leads where the whole task leads alone. -/
structure OnCourse (task : String → Task α) (before now : MemoryStore) (entry : String × Task α) :
    Prop where
  concerns : entry.2.Concerns entry.1
  leads : (entry.2.run (cell before.refusals)).run (now.collections.get? entry.1) =
    alone task before entry.1

/-- All tasks have come to an end, each as it would have alone. -/
structure Settled (names : List String) (task : String → Task α) (before : MemoryStore)
    (results : List α) (after : MemoryStore) : Prop where
  refusals : after.refusals = before.refusals
  others : ∀ name ∉ names, after.collections.get? name = before.collections.get? name
  members : ∀ name ∈ names, after.collections.get? name = (alone task before name).2
  results : results.Perm (names.map fun name => (alone task before name).1)

variable {names : List String} {task : String → Task α} {before now next : MemoryStore}

theorem OnCourse.elsewhere {entry : String × Task α} {name : String} {members : Option StringSet}
    (onCourse : OnCourse task before now entry) (differs : DiffersAt name members now next)
    (distinct : entry.1 ≠ name) : OnCourse task before next entry where
  concerns := onCourse.concerns
  leads := by rw [differs.other distinct, onCourse.leads]

theorem OnCourse.step {name : String} {rest : Task α}
    (onCourse : OnCourse task before now (name, rest)) (refusals : now.refusals = before.refusals) :
    let stepped := (rest.step store).run now
    OnCourse task before stepped.2 (name, stepped.1) ∧
      DiffersAt name (stepped.2.collections.get? name) now stepped.2 := by
  obtain ⟨answer, differs, concerns⟩ := step_local onCourse.concerns now
  refine ⟨⟨answer ▸ concerns, ?_⟩, differs.self ▸ differs⟩
  have leads := onCourse.leads
  rw [Task.run_step, ← refusals] at leads
  rw [answer, differs.self, ← refusals]
  exact leads

theorem OnCourse.start {name : String} (concerns : (task name).Concerns name) :
    OnCourse task before before (name, task name) := ⟨concerns, rfl⟩

/-- Tasks about distinct collections keep each other on course. -/
theorem interleaves (names : List String) (task : String → Task α) (before : MemoryStore) :
    Interleaves store
      (fun now entry => entry.1 ∈ names ∧ now.refusals = before.refusals ∧
        OnCourse task before now entry)
      fun now next => next.refusals = now.refusals ∧
        ∀ name ∉ names, next.collections.get? name = now.collections.get? name where
  refl now := ⟨rfl, fun _ _ => rfl⟩
  trans first second :=
    ⟨second.1.trans first.1,
      fun name outside => (second.2 name outside).trans (first.2 name outside)⟩
  step := by
    rintro now name rest ⟨member, refusals, onCourse⟩
    obtain ⟨stepOnCourse, differs⟩ := onCourse.step refusals
    have unchanged := differs.refusals
    refine ⟨⟨unchanged, fun other outside => ?_⟩,
      ⟨member, unchanged.trans refusals, stepOnCourse⟩, ?_⟩
    · exact differs.other fun same => outside (same ▸ member)
    · rintro other distinct ⟨otherMember, _, otherOnCourse⟩
      exact ⟨otherMember, unchanged.trans refusals, otherOnCourse.elsewhere differs distinct⟩

theorem settled_of_ended {ended : List (String × α)} (named : (ended.map Prod.fst).Perm names)
    (moved : now.refusals = before.refusals ∧
      ∀ name ∉ names, now.collections.get? name = before.collections.get? name)
    (onCourse : ∀ entry ∈ ended, OnCourse task before now (entry.1, .done entry.2)) :
    Settled names task before (ended.map Prod.snd) now ∧
      ended.map Prod.snd = (ended.map Prod.fst).map fun name => (alone task before name).1 := by
  have leads : ∀ entry ∈ ended, (entry.2, now.collections.get? entry.1) =
      alone task before entry.1 := fun entry mem => (onCourse entry mem).leads
  have results : ended.map Prod.snd =
      (ended.map Prod.fst).map fun name => (alone task before name).1 := by
    rw [List.map_map]
    exact List.map_congr_left fun entry mem => congrArg Prod.fst (leads entry mem)
  refine ⟨⟨moved.1, moved.2, fun name member => ?_, ?_⟩, results⟩
  · obtain ⟨entry, mem, rfl⟩ := List.mem_map.1 (named.symm.subset member)
    exact congrArg Prod.snd (leads entry mem)
  · rw [results]
    exact named.map _

/-- Each task under the name of its collection. -/
def labelled (names : List String) (task : String → Task α) : List (String × Task α) :=
  names.map fun name => (name, task name)

theorem labelled_fst (names : List String) (task : String → Task α) :
    (labelled names task).map Prod.fst = names := by
  simp [labelled, Function.comp_def]

theorem labelled_snd (names : List String) (task : String → Task α) :
    (labelled names task).map Prod.snd = names.map task := by
  simp [labelled, Function.comp_def]

/-- What goes for a step of each task goes for all turns of tasks under distinct names. -/
theorem run_labelled {σ : Type} {store : Store (StateM σ)} {good : σ → String × Task α → Prop}
    {moves : σ → σ → Prop} (rule : Interleaves store good moves) (distinct : names.Nodup)
    (task : String → Task α) {s : σ} (allGood : ∀ name ∈ names, good s (name, task name))
    (width : Nat) (turns : List Nat) :
    let after := ((start width (names.map task)).run store turns).run s
    moves s after.2 ∧
      ∃ ended : List (String × α), ended.map Prod.snd = after.1 ∧
        (ended.map Prod.fst).Perm names ∧
        ∀ entry ∈ ended, good after.2 (entry.1, .done entry.2) := by
  have nodup : ((labelled names task).map Prod.fst).Nodup := by rwa [labelled_fst]
  have goodEntries : ∀ entry ∈ labelled names task, good s entry := by
    intro entry mem
    obtain ⟨name, member, rfl⟩ := List.mem_map.1 mem
    exact allGood name member
  have flown := rule.flight nodup goodEntries width turns
  rwa [labelled_fst, labelled_snd] at flown

theorem labelled_start (concerns : ∀ name, (task name).Concerns name) :
    ∀ entry ∈ labelled names task, entry.1 ∈ names ∧ before.refusals = before.refusals ∧
      OnCourse task before before entry := by
  intro entry mem
  obtain ⟨name, member, rfl⟩ := List.mem_map.1 mem
  exact ⟨member, rfl, .start (concerns name)⟩

/-- Whatever turns the tasks take, each comes to what it comes to alone. -/
theorem run_settles (distinct : names.Nodup) (concerns : ∀ name, (task name).Concerns name)
    (before : MemoryStore) (width : Nat) (turns : List Nat) :
    let after := ((start width (names.map task)).run store turns).run before
    Settled names task before after.1 after.2 := by
  obtain ⟨moved, ended, results, named, onCourse⟩ :=
    run_labelled (interleaves names task before) distinct task
      (fun name member => ⟨member, rfl, .start (concerns name)⟩) width turns
  dsimp only
  rw [← results]
  exact (settled_of_ended named moved fun entry mem => (onCourse entry mem).2.2).1

/-- One after another, in the given order, each task comes to what it comes to alone. -/
theorem sequence_settles (distinct : names.Nodup) (concerns : ∀ name, (task name).Concerns name)
    (before : MemoryStore) :
    let after := ((names.map task).mapM (Task.run store)).run before
    Settled names task before after.1 after.2 ∧
      after.1 = names.map fun name => (alone task before name).1 := by
  have nodup : ((labelled names task).map Prod.fst).Nodup := by rwa [labelled_fst]
  obtain ⟨moved, ⟨ended, results, named, onCourse⟩, _⟩ :=
    (interleaves names task before).each nodup (labelled_start concerns)
  rw [labelled_fst] at named
  rw [labelled_snd] at moved results onCourse
  have settled := settled_of_ended (.of_eq named) moved fun entry mem => (onCourse entry mem).2.2
  rwa [results, named] at settled

/-- The collections that are left, and what was told of them, do not depend on the turns. -/
theorem Settled.unique {results others : List α} {after other : MemoryStore}
    (first : Settled names task before results after)
    (second : Settled names task before others other) :
    results.Perm others ∧ after.collections = other.collections := by
  refine ⟨first.results.trans second.results.symm, Collections.ext_get? fun name => ?_⟩
  by_cases member : name ∈ names
  · rw [first.members name member, second.members name member]
  · rw [first.others name member, second.others name member]

end SmartCollections.Flight
