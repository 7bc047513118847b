import SmartCollections.Collections

/-!
What a store of collections can be asked, and tasks that ask it. A store answers one call at a time.
A task is a program of such calls: what it does next depends on the answers it got, and between two
calls it leaves the store alone, so tasks can take turns at one store.
-/
namespace SmartCollections

/-- A store of collections, in whatever way its calls are carried out. -/
structure Store (m : Type → Type) where
  /-- The members of a collection, if it exists. -/
  members : String → m (Except HostError (Option StringSet))
  mutate : Mutation → m (Except HostError Unit)

namespace Store

variable {m : Type → Type} [Monad m]

/-- Makes a change for each item, whatever becomes of the changes before it. -/
def mutateEach (store : Store m) (change : String → Mutation) (items : List String) :
    m (List (String × Except HostError Unit)) :=
  items.mapM fun item => do return (item, ← store.mutate (change item))

def addMembers (store : Store m) (collection : String) (items : List String) :
    m (List (String × Except HostError Unit)) :=
  store.mutateEach (.add collection) items

def removeMembers (store : Store m) (collection : String) (items : List String) :
    m (List (String × Except HostError Unit)) :=
  store.mutateEach (.remove collection) items

end Store

/-- A program of store calls with a result. -/
inductive Task (α : Type) where
  | done (value : α)
  | lookup (collection : String) (next : Except HostError (Option StringSet) → Task α)
  | mutate (mutation : Mutation) (next : Except HostError Unit → Task α)

namespace Task

variable {α β : Type}

def bind : Task α → (α → Task β) → Task β
  | done value, next => next value
  | lookup collection rest, next => lookup collection fun answer => (rest answer).bind next
  | mutate mutation rest, next => mutate mutation fun answer => (rest answer).bind next

instance : Monad Task where
  pure := done
  bind := bind

def attempt (mutation : Mutation) : Task (Except HostError Unit) := mutate mutation done

variable {m : Type → Type} [Monad m]

def step (store : Store m) : Task α → m (Task α)
  | done value => return done value
  | lookup collection next => do return next (← store.members collection)
  | mutate mutation next => do return next (← store.mutate mutation)

def run (store : Store m) : Task α → m α
  | done value => return value
  | lookup collection next => do (next (← store.members collection)).run store
  | mutate mutation next => do (next (← store.mutate mutation)).run store

end Task

end SmartCollections
