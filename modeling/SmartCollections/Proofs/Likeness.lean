import SmartCollections.Pass

/-!
# Stores that answer alike

Two stores in different monads may answer every call alike, for some sense of the word that is kept
from one step of a computation to the next. Whatever is made of store calls then comes out alike:
tasks, tasks that take turns, and passes.
-/

namespace SmartCollections

/-- A sense in which computations in two monads are alike. -/
structure Likeness (m n : Type → Type) [Monad m] [Monad n] where
  Alike {α : Type} : m α → n α → Prop
  pure {α : Type} (value : α) : Alike (pure value) (pure value)
  bind {α β : Type} {first : m α} {other : n α} {next : α → m β} {otherNext : α → n β} :
    Alike first other → (∀ value, Alike (next value) (otherNext value)) →
      Alike (first >>= next) (other >>= otherNext)

namespace Likeness

variable {m n : Type → Type} [Monad m] [Monad n]

/-- Every call of one store is like that call of the other. -/
structure Stores (like : Likeness m n) (store : Store m) (other : Store n) : Prop where
  members (collection : String) : like.Alike (store.members collection) (other.members collection)
  mutate (mutation : Mutation) : like.Alike (store.mutate mutation) (other.mutate mutation)

variable {like : Likeness m n} {store : Store m} {other : Store n} {α β : Type}

theorem Stores.step (stores : like.Stores store other) (task : Task α) :
    like.Alike (task.step store) (task.step other) := by
  cases task with
  | done value => exact like.pure _
  | lookup collection next => exact like.bind (stores.members _) fun _ => like.pure _
  | mutate mutation next => exact like.bind (stores.mutate _) fun _ => like.pure _

theorem Stores.run (stores : like.Stores store other) (task : Task α) :
    like.Alike (task.run store) (task.run other) := by
  induction task with
  | done value => exact like.pure _
  | lookup collection next ih => exact like.bind (stores.members _) ih
  | mutate mutation next ih => exact like.bind (stores.mutate _) ih

theorem foldlM {step : β → α → m β} {otherStep : β → α → n β}
    (steps : ∀ b a, like.Alike (step b a) (otherStep b a)) (items : List α) (b : β) :
    like.Alike (items.foldlM step b) (items.foldlM otherStep b) := by
  induction items generalizing b with
  | nil => exact like.pure b
  | cons item items ih =>
    rw [List.foldlM_cons, List.foldlM_cons]
    exact like.bind (steps b item) ih

theorem mapM [LawfulMonad m] [LawfulMonad n] {step : α → m β} {otherStep : α → n β}
    (steps : ∀ a, like.Alike (step a) (otherStep a)) (items : List α) :
    like.Alike (items.mapM step) (items.mapM otherStep) := by
  induction items with
  | nil =>
    rw [List.mapM_nil, List.mapM_nil]
    exact like.pure []
  | cons item items ih =>
    rw [List.mapM_cons, List.mapM_cons]
    exact like.bind (steps item) fun _ => like.bind ih fun _ => like.pure _

theorem Stores.turn (stores : like.Stores store other) (flight : Flight α) (place : Nat) :
    like.Alike (flight.turn store place) (flight.turn other place) := by
  simp only [Flight.turn]
  cases flight.running[place]? with
  | none => exact like.pure _
  | some task =>
    refine like.bind (stores.step task) fun next => ?_
    cases next <;> exact like.pure _

/-- Tasks that take turns come out alike. -/
theorem Stores.flight [LawfulMonad m] [LawfulMonad n] (stores : like.Stores store other)
    (flight : Flight α) (turns : List Nat) :
    like.Alike (flight.run store turns) (flight.run other turns) := by
  refine like.bind (foldlM stores.turn turns flight) fun left => ?_
  exact like.bind (mapM stores.run _) fun _ => like.pure _

/-- Passes come out alike. -/
theorem Stores.pass [LawfulMonad m] [LawfulMonad n] (stores : like.Stores store other) (pass : Pass)
    {fetch : m (Except HostError (List Item))} {otherFetch : n (Except HostError (List Item))}
    (fetched : like.Alike fetch otherFetch) (turns : List Nat) :
    like.Alike (pass.run fetch store turns) (pass.run otherFetch other turns) := by
  refine like.bind fetched fun answer => ?_
  cases answer with
  | error cause => exact like.pure _
  | ok catalog => exact like.bind (stores.flight _ turns) fun _ => like.pure _

end Likeness

section

variable {σ τ α : Type}

/-- A computation on a state in two parts, as one on pairs. -/
def packed (computation : StateT σ (StateM τ) α) : StateM (σ × τ) α := fun s =>
  let ran := (computation.run s.1).run s.2
  (ran.1.1, ran.1.2, ran.2)

def Store.packed (store : Store (StateT σ (StateM τ))) : Store (StateM (σ × τ)) where
  members collection := SmartCollections.packed (store.members collection)
  mutate mutation := SmartCollections.packed (store.mutate mutation)

/-- Nothing is lost when the parts are put together. -/
def Likeness.packing (σ τ : Type) : Likeness (StateT σ (StateM τ)) (StateM (σ × τ)) where
  Alike first other := packed first = other
  pure _ := rfl
  bind same later := by
    obtain rfl := same
    obtain rfl := funext later
    rfl

/-- A pass over a store with a state in two parts is one over the store with the parts put
together. -/
theorem Pass.run_packed (pass : Pass) (fetch : StateT σ (StateM τ) (Except HostError (List Item)))
    (store : Store (StateT σ (StateM τ))) (turns : List Nat) :
    packed (pass.run fetch store turns) = pass.run (packed fetch) store.packed turns := by
  have stores : (Likeness.packing σ τ).Stores store store.packed := ⟨fun _ => rfl, fun _ => rfl⟩
  exact stores.pass pass (show packed fetch = packed fetch from rfl) turns

end

end SmartCollections
