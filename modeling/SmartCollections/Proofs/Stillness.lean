import SmartCollections.Pass
import SmartCollections.Proofs.Interleaving

/-!
# Computations that change nothing

A task that makes lookups alone leaves everything as it is, and so do tasks of this kind that take
turns, and a pass of them, over whatever store. What they come to follows from the answers to their
lookups.
-/

namespace SmartCollections

/-- A sense in which a computation comes to a value and changes nothing. -/
structure Stillness (m : Type → Type) [Monad m] where
  Gives {α : Type} : m α → α → Prop
  pure {α : Type} (value : α) : Gives (pure value) value
  bind {α β : Type} {first : m α} {next : α → m β} {value : α} {result : β} :
    Gives first value → Gives (next value) result → Gives (first >>= next) result

namespace Stillness

/-- A computation without a state comes to what it is. -/
def stateless : Stillness Id where
  Gives first value := first = value
  pure _ := rfl
  bind first next := by
    subst first
    exact next

/-- From a state, to the same state. -/
def stateful {m : Type → Type} [Monad m] (inner : Stillness m) {σ : Type} (s : σ) :
    Stillness (StateT σ m) where
  Gives first value := inner.Gives (first.run s) (value, s)
  pure value := inner.pure (value, s)
  bind first next := inner.bind first next

end Stillness

/-- The result of a task that makes lookups alone when they are answered so. There is none if it
makes a change. -/
def Task.look {α : Type} (answers : String → Except HostError (Option StringSet)) :
    Task α → Option α
  | .done value => some value
  | .lookup collection next => (next (answers collection)).look answers
  | .mutate _ _ => none

theorem Task.look_bind {α β : Type} (answers : String → Except HostError (Option StringSet))
    (task : Task α) (next : α → Task β) :
    (task >>= next).look answers =
      (task.look answers).bind fun value => (next value).look answers := by
  change (task.bind next).look answers = _
  induction task with
  | done value => rfl
  | lookup collection rest ih => exact ih _
  | mutate mutation rest ih => rfl

/-- The work on a collection looks as its plan does. -/
theorem Pass.task_look (pass : Pass) (catalog : List Item) (name : String)
    (answers : String → Except HostError (Option StringSet)) :
    (pass.task catalog name).look answers =
      match answers name with
      | .error cause => some (.error (.membership name cause))
      | .ok members =>
        let plan := reconcile name (pass.rules.rulesFor name) catalog members
        ((plan.apply pass.options).look answers).map .ok := by
  simp only [task, Task.look]
  cases answers name with
  | error cause => rfl
  | ok members =>
    let plan := reconcile name (pass.rules.rulesFor name) catalog members
    have applied := Task.look_bind answers (plan.apply pass.options) fun report =>
      (.done (.ok report) : Task (Except PassError Report))
    refine applied.trans ?_
    cases looked : (plan.apply pass.options).look answers <;> simp [Task.look, plan, looked]

/-- What the tasks of a flight come to by lookups alone. -/
def Flight.outlook {α : Type} (answers : String → Except HostError (Option StringSet))
    (flight : Flight α) : List (Option α) :=
  flight.tasks.map (Task.look answers)

namespace Stillness

variable {m : Type → Type} [Monad m] {still : Stillness m} {store : Store m}
  {answers : String → Except HostError (Option StringSet)} {α : Type}

theorem step (lookups : ∀ name, still.Gives (store.members name) (answers name)) {task : Task α}
    {value : α} (looks : task.look answers = some value) :
    ∃ next, still.Gives (task.step store) next ∧ next.look answers = some value := by
  cases task with
  | done result => exact ⟨.done result, still.pure _, looks⟩
  | lookup name next => exact ⟨next (answers name), still.bind (lookups name) (still.pure _), looks⟩
  | mutate mutation next => cases looks

theorem run (lookups : ∀ name, still.Gives (store.members name) (answers name)) {task : Task α}
    {value : α} (looks : task.look answers = some value) : still.Gives (task.run store) value := by
  induction task with
  | done result =>
    cases looks
    exact still.pure value
  | lookup name next ih => exact still.bind (lookups name) (ih _ looks)
  | mutate mutation next => cases looks

theorem mapM [LawfulMonad m] (lookups : ∀ name, still.Gives (store.members name) (answers name))
    {tasks : List (Task α)} {values : List α}
    (looks : tasks.map (Task.look answers) = values.map some) :
    still.Gives (tasks.mapM (Task.run store)) values := by
  induction tasks generalizing values with
  | nil =>
    obtain rfl := List.map_eq_nil_iff.1 looks.symm
    rw [List.mapM_nil]
    exact still.pure []
  | cons task tasks ih =>
    obtain ⟨value, others, rfl, first, rest⟩ := List.map_eq_cons_iff.1 looks.symm
    rw [List.mapM_cons]
    exact still.bind (run lookups first.symm) (still.bind (ih rest.symm) (still.pure _))

/-- A turn changes what is known of the tasks in no more than the order. -/
theorem turn (lookups : ∀ name, still.Gives (store.members name) (answers name))
    {flight : Flight α} (looks : ∀ outcome ∈ flight.outlook answers, outcome.isSome) (place : Nat) :
    ∃ next, still.Gives (flight.turn store place) next ∧
      (next.outlook answers).Perm (flight.outlook answers) := by
  cases pick : flight.running[place]? with
  | none =>
    rw [Flight.turn_none store pick]
    exact ⟨flight, still.pure flight, .refl _⟩
  | some task =>
    obtain ⟨front, back, split, advanced⟩ := Flight.tasks_advance pick
    obtain ⟨value, looked⟩ := Option.isSome_iff_exists.1 (looks (task.look answers) (by
      simp [Flight.outlook, split]))
    obtain ⟨next, gives, lookedNext⟩ := step lookups looked
    refine ⟨flight.advance place next, ?_, ((advanced next).map _).trans (.of_eq ?_)⟩
    · rw [Flight.turn_eq store pick]
      exact still.bind gives (still.pure _)
    · rw [Flight.outlook, split, List.map_append, List.map_append, List.map_cons, List.map_cons,
        lookedNext, looked]

theorem turns (lookups : ∀ name, still.Gives (store.members name) (answers name))
    {flight : Flight α} (looks : ∀ outcome ∈ flight.outlook answers, outcome.isSome)
    (turns : List Nat) :
    ∃ next, still.Gives (turns.foldlM (Flight.turn store) flight) next ∧
      (next.outlook answers).Perm (flight.outlook answers) := by
  induction turns generalizing flight with
  | nil => exact ⟨flight, still.pure flight, .refl _⟩
  | cons place places ih =>
    obtain ⟨next, gives, perm⟩ := turn lookups looks place
    obtain ⟨last, givesLater, permLater⟩ := ih fun outcome mem => looks outcome (perm.subset mem)
    refine ⟨last, ?_, permLater.trans perm⟩
    rw [List.foldlM_cons]
    exact still.bind gives givesLater

theorem finish [LawfulMonad m] (lookups : ∀ name, still.Gives (store.members name) (answers name))
    {flight : Flight α} {values : List α} (looks : flight.outlook answers = values.map some) :
    still.Gives (flight.finish store) values := by
  rw [Flight.outlook, Flight.tasks, List.map_append, List.map_map] at looks
  obtain ⟨finished, others, rfl, ended, rest⟩ := List.map_eq_append_iff.1 looks.symm
  obtain rfl : finished = flight.finished := (List.map_inj_right fun _ _ => Option.some.inj).1 ended
  exact still.bind (mapM lookups rest.symm) (still.pure _)

/-- Tasks that make lookups alone come to their results in some order. -/
theorem flight [LawfulMonad m] (lookups : ∀ name, still.Gives (store.members name) (answers name))
    {tasks : List (Task α)} {values : List α}
    (looks : tasks.map (Task.look answers) = values.map some) (width : Nat) (places : List Nat) :
    ∃ results, still.Gives ((Flight.start width tasks).run store places) results ∧
      results.Perm values := by
  have outlook : (Flight.start width tasks).outlook answers = values.map some := by
    rw [Flight.outlook, Flight.tasks_start, looks]
  have known : ∀ outcome ∈ (Flight.start width tasks).outlook answers, outcome.isSome := by
    rw [outlook]
    simp
  obtain ⟨last, gives, perm⟩ := turns lookups known places
  rw [outlook] at perm
  have all : (last.outlook answers).filter Option.isSome = last.outlook answers :=
    List.filter_eq_self.2 fun outcome mem => by
      obtain ⟨value, _, rfl⟩ := List.mem_map.1 (perm.subset mem)
      rfl
  refine ⟨(last.outlook answers).filterMap id, still.bind gives (finish lookups ?_), ?_⟩
  · rw [List.map_filterMap_some_eq_filter_map_isSome, List.map_id, all]
  · have collected := perm.filterMap id
    simpa [List.filterMap_map] using collected

/-- A pass whose tasks make lookups alone tells of what they come to. -/
theorem pass [LawfulMonad m] (lookups : ∀ name, still.Gives (store.members name) (answers name))
    {pass : Pass} {catalog : List Item} {value : String → Except PassError Report}
    (looks : ∀ name ∈ pass.rules.collections,
      (pass.task catalog name).look answers = some (value name)) (turns : List Nat) :
    ∃ results, still.Gives (pass.run (Pure.pure (.ok catalog)) store turns)
        (pass.events catalog results) ∧
      results.Perm (pass.rules.collections.toList.map value) := by
  have all : (pass.tasks catalog).map (Task.look answers) =
      (pass.rules.collections.toList.map value).map some := by
    rw [Pass.tasks, List.map_map, List.map_map]
    exact List.map_congr_left looks
  obtain ⟨results, gives, perm⟩ := flight lookups all pass.options.concurrency turns
  exact ⟨results, still.bind (still.pure _) (still.bind gives (still.pure _)), perm⟩

end Stillness

end SmartCollections
