import SmartCollections.Store

/-!
Several tasks at one store, of which only some are under way at a time. The tasks under way take
turns, a store call at a turn, in any order; one that has made its last call makes room for the
first that waits.
-/
namespace SmartCollections

structure Flight (α : Type) where
  waiting : List (Task α)
  running : List (Task α)
  /-- The results of the tasks that have made all calls, in the order in which they came to an
  end. -/
  finished : List α

namespace Flight

variable {α : Type}

/-- At most `width` tasks are under way, at least one. -/
def start (width : Nat) (tasks : List (Task α)) : Flight α :=
  ⟨tasks.drop (max 1 width), tasks.take (max 1 width), []⟩

variable {m : Type → Type} [Monad m]

def turn (store : Store m) (flight : Flight α) (place : Nat) : m (Flight α) :=
  match flight.running[place]? with
  | none => return flight
  | some task => do
    match ← task.step store with
    | .done result => return {
        waiting := flight.waiting.drop 1
        running := flight.running.eraseIdx place ++ flight.waiting.take 1
        finished := flight.finished ++ [result] }
    | next => return { flight with running := flight.running.set place next }

def finish (store : Store m) (flight : Flight α) : m (List α) := do
  return flight.finished ++ (← (flight.running ++ flight.waiting).mapM (Task.run store))

/-- The results, when the tasks take the given turns first and then finish in order. -/
def run (store : Store m) (turns : List Nat) (flight : Flight α) : m (List α) := do
  (← turns.foldlM (turn store) flight).finish store

end Flight

end SmartCollections
