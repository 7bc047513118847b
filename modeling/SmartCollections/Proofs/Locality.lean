import SmartCollections.Proofs.Collections
import SmartCollections.Store.Memory

/-!
# Tasks about one collection

A task that names one collection in all its calls sees and changes nothing else of a store. What
becomes of it is told by a cell: the members of that collection alone, with the refusals of the
store, which never change.
-/

namespace SmartCollections

/-- A computation that follows another starts in the state that the other leaves. -/
theorem run_bind_state {σ α β : Type} (first : StateM σ α) (next : α → StateM σ β) (s : σ) :
    (first >>= next).run s = (next (first.run s).1).run (first.run s).2 := rfl

theorem run_get_bind {σ β : Type} (next : σ → StateM σ β) (s : σ) :
    (get >>= next).run s = (next s).run s := rfl

namespace Task

variable {α β : Type}

/-- All calls of the task name the collection. -/
inductive Concerns (name : String) : Task α → Prop where
  | done (value : α) : Concerns name (.done value)
  | lookup (next : Except HostError (Option StringSet) → Task α)
      (rest : ∀ answer, Concerns name (next answer)) : Concerns name (.lookup name next)
  | mutate (mutation : Mutation) (next : Except HostError Unit → Task α)
      (names : mutation.collection = name) (rest : ∀ answer, Concerns name (next answer)) :
      Concerns name (.mutate mutation next)

theorem Concerns.bind {name : String} {task : Task α} {next : α → Task β}
    (first : task.Concerns name) (rest : ∀ value, (next value).Concerns name) :
    (task >>= next).Concerns name := by
  change (task.bind next).Concerns name
  induction first with
  | done value => exact rest value
  | lookup step _ ih => exact .lookup _ ih
  | mutate mutation step names _ ih => exact .mutate mutation _ names ih

theorem Concerns.attempt {name : String} {mutation : Mutation}
    (names : mutation.collection = name) : (attempt mutation).Concerns name :=
  .mutate mutation .done names .done

/-- The first call of a task, and then its other calls, are all its calls. -/
theorem run_step {σ : Type} (store : Store (StateM σ)) (task : Task α) (s : σ) :
    (task.run store).run s =
      (((task.step store).run s).1.run store).run ((task.step store).run s).2 := by
  cases task <;> rfl

/-- One task after the other makes the calls of both. -/
theorem run_bind {σ : Type} (store : Store (StateM σ)) (task : Task α) (next : α → Task β) (s : σ) :
    ((task >>= next).run store).run s =
      ((next ((task.run store).run s).1).run store).run ((task.run store).run s).2 := by
  change ((task.bind next).run store).run s = _
  induction task generalizing s with
  | done value => rfl
  | lookup collection rest ih => exact ih _ _
  | mutate mutation rest ih => exact ih _ _

end Task

namespace MemoryStore

/-- One collection by itself, as a store with the given refusals treats it. -/
def cell (refusals : List RefusalKey) : Store (StateM (Option StringSet)) where
  members collection := do
    let members ← get
    return if (collection, none) ∈ refusals then .error (refusal (collection, none)) else .ok members
  mutate mutation := do
    if mutation.refusalKey ∈ refusals then return .error (refusal mutation.refusalKey)
    else match mutation.effect (← get) with
      | .ok members => set members; return .ok ()
      | .error error => return .error error

/-- Two stores differ in no more than the members of one collection, and in the journal. -/
structure DiffersAt (name : String) (members : Option StringSet) (before after : MemoryStore) :
    Prop where
  refusals : after.refusals = before.refusals
  get? : ∀ other, after.collections.get? other =
    if other = name then members else before.collections.get? other

theorem DiffersAt.refl (s : MemoryStore) (name : String) :
    DiffersAt name (s.collections.get? name) s s where
  refusals := rfl
  get? other := by
    split
    · next h => rw [h]
    · rfl

theorem DiffersAt.trans {name : String} {first second : Option StringSet} {s t u : MemoryStore}
    (hst : DiffersAt name first s t) (htu : DiffersAt name second t u) :
    DiffersAt name second s u where
  refusals := htu.refusals.trans hst.refusals
  get? other := by
    rw [htu.get?, hst.get?]
    split <;> rfl

theorem DiffersAt.self {name : String} {members : Option StringSet} {s t : MemoryStore}
    (differs : DiffersAt name members s t) : t.collections.get? name = members := by
  simp [differs.get?]

theorem DiffersAt.other {name other : String} {members : Option StringSet} {s t : MemoryStore}
    (differs : DiffersAt name members s t) (distinct : other ≠ name) :
    t.collections.get? other = s.collections.get? other := by
  simp [differs.get?, distinct]

theorem cell_members_run (refusals : List RefusalKey) (name : String)
    (members : Option StringSet) :
    ((cell refusals).members name).run members =
      (if (name, none) ∈ refusals then .error (refusal (name, none)) else .ok members, members) :=
  rfl

theorem cell_mutate_run (refusals : List RefusalKey) (mutation : Mutation)
    (members : Option StringSet) :
    ((cell refusals).mutate mutation).run members =
      if mutation.refusalKey ∈ refusals then (.error (refusal mutation.refusalKey), members)
      else match mutation.effect members with
        | .ok next => (.ok (), next)
        | .error error => (.error error, members) := by
  by_cases refused : mutation.refusalKey ∈ refusals
  · simp only [cell, refused, if_true]
    rfl
  · simp only [cell, refused, if_false, run_get_bind]
    cases mutation.effect members <;> rfl

theorem members_run (s : MemoryStore) (name : String) :
    (store.members name).run s =
      (if (name, none) ∈ s.refusals then .error (refusal (name, none))
        else .ok (s.collections.get? name), s) := by
  have answer : MemoryStore.members s name =
      if (name, none) ∈ s.refusals then .error (refusal (name, none))
      else .ok (s.collections.get? name) := by
    simp only [MemoryStore.members, MemoryStore.guard]
    split <;> rfl
  rw [← answer]
  rfl

theorem mutate_run (s : MemoryStore) (mutation : Mutation) :
    (store.mutate mutation).run s =
      if mutation.refusalKey ∈ s.refusals then (.error (refusal mutation.refusalKey), s)
      else match mutation.effect (s.collections.get? mutation.collection) with
        | .ok members =>
          (.ok (), { s with
            collections := s.collections.assign mutation.collection members
            journal := s.journal ++ [mutation] })
        | .error error => (.error error, s) := by
  have outcome : MemoryStore.mutate s mutation =
      if mutation.refusalKey ∈ s.refusals then .error (refusal mutation.refusalKey)
      else (mutation.effect (s.collections.get? mutation.collection)).map fun members =>
        { s with
          collections := s.collections.assign mutation.collection members
          journal := s.journal ++ [mutation] } := by
    simp only [MemoryStore.mutate, MemoryStore.guard, Collections.change_eq]
    split
    · rfl
    · cases mutation.effect (s.collections.get? mutation.collection) <;> rfl
  simp only [store, run_get_bind, outcome]
  by_cases refused : mutation.refusalKey ∈ s.refusals
  · simp only [refused, if_true]
    rfl
  · simp only [refused, if_false]
    cases mutation.effect (s.collections.get? mutation.collection) <;> rfl

/-- A change is answered from the cell of the collection it names, and makes a difference there
alone. -/
theorem mutate_local (s : MemoryStore) (mutation : Mutation) :
    let inCell := ((cell s.refusals).mutate mutation).run (s.collections.get? mutation.collection)
    ((store.mutate mutation).run s).1 = inCell.1 ∧
      DiffersAt mutation.collection inCell.2 s ((store.mutate mutation).run s).2 := by
  simp only [cell_mutate_run, mutate_run]
  split
  · exact ⟨rfl, .refl s _⟩
  · cases mutation.effect (s.collections.get? mutation.collection) with
    | error error => exact ⟨rfl, .refl s _⟩
    | ok members => exact ⟨rfl, ⟨rfl, fun other => Collections.get?_assign _ _ _ _⟩⟩

variable {α : Type} {name : String}

/-- A call of a task about one collection goes as it goes in the cell. -/
theorem step_local {task : Task α} (concerns : task.Concerns name) (s : MemoryStore) :
    let inCell := (task.step (cell s.refusals)).run (s.collections.get? name)
    ((task.step store).run s).1 = inCell.1 ∧
      DiffersAt name inCell.2 s ((task.step store).run s).2 ∧ inCell.1.Concerns name := by
  cases concerns with
  | done value => exact ⟨rfl, .refl s name, .done value⟩
  | lookup next rest =>
    simp only [Task.step, run_bind_state, members_run, cell_members_run]
    exact ⟨rfl, .refl s name, rest _⟩
  | mutate mutation next names rest =>
    subst names
    obtain ⟨answer, differs⟩ := mutate_local s mutation
    simp only [Task.step, run_bind_state, answer]
    exact ⟨rfl, differs, rest _⟩

/-- A task about one collection goes as it goes in the cell. -/
theorem run_local {task : Task α} (concerns : task.Concerns name) (s : MemoryStore) :
    let inCell := (task.run (cell s.refusals)).run (s.collections.get? name)
    ((task.run store).run s).1 = inCell.1 ∧
      DiffersAt name inCell.2 s ((task.run store).run s).2 := by
  induction concerns generalizing s with
  | done value => exact ⟨rfl, .refl s name⟩
  | lookup next rest ih =>
    simp only [Task.run, run_bind_state, members_run, cell_members_run]
    exact ih _ s
  | mutate mutation next names rest ih =>
    subst names
    obtain ⟨answer, differs⟩ := mutate_local s mutation
    simp only [Task.run, run_bind_state, answer]
    obtain ⟨result, later⟩ :=
      ih (((cell s.refusals).mutate mutation).run (s.collections.get? mutation.collection)).1
        ((store.mutate mutation).run s).2
    rw [differs.refusals, differs.self] at result later
    exact ⟨result, differs.trans later⟩

end MemoryStore

end SmartCollections
