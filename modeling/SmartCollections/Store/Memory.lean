import SmartCollections.Store
import SmartCollections.Text.Quoted

/-!
A store in memory that refuses chosen calls and keeps a journal of the changes it made. A refusal
for a collection as a whole is about its lookup, creation and deletion; one for an item in a
collection is about adding and removing that item there.
-/
namespace SmartCollections

/-- The calls that a refusal is about: a collection, and an item in it or none. -/
abbrev RefusalKey := String × Option String

instance : LawfulBEq RefusalKey := inferInstance

namespace Mutation

def refusalKey (mutation : Mutation) : RefusalKey := (mutation.collection, mutation.item?)

end Mutation

structure MemoryStore where
  collections : Collections
  refusals : List RefusalKey
  /-- The changes made so far, the first one first. -/
  journal : List Mutation

namespace MemoryStore

def refusal (key : RefusalKey) : HostError :=
  let item := match key.2 with
    | some item => "Some(ItemId(" ++ Text.quoted item ++ "))"
    | none => "None"
  .rejected ("mock failure for " ++ key.1 ++ "/" ++ item)

def guard (store : MemoryStore) (key : RefusalKey) : Except HostError Unit :=
  if key ∈ store.refusals then .error (refusal key) else .ok ()

def members (store : MemoryStore) (collection : String) : Except HostError (Option StringSet) := do
  store.guard (collection, none)
  return store.collections.get? collection

/-- The store after a change. A refusal comes before any other error. -/
def mutate (store : MemoryStore) (mutation : Mutation) : Except HostError MemoryStore := do
  store.guard mutation.refusalKey
  let collections ← store.collections.change mutation
  return { store with collections, journal := store.journal ++ [mutation] }

/-- The calls as steps from one state of the store to the next. A failed call leaves the state as it
was. -/
def store : Store (StateM MemoryStore) where
  members collection := do return (← get).members collection
  mutate mutation := do
    match (← get).mutate mutation with
    | .ok next => set next; return .ok ()
    | .error error => return .error error

end MemoryStore

end SmartCollections
