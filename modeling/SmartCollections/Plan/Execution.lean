import SmartCollections.Plan
import SmartCollections.Store

/-!
Carrying out a plan, one change at a time. A change that fails is put down in the report, and the
others are attempted all the same; nothing is undone.
-/
namespace SmartCollections

structure Options where
  dryRun : Bool := false
  /-- Delete a collection that is left without members. -/
  removeEmpty : Bool := false
  /-- How many collections may be worked on at a time. Zero stands for one. -/
  concurrency : Nat := 4
  deriving DecidableEq

structure Failure where
  change : Mutation
  cause : HostError
  deriving DecidableEq

/-- What became of a plan. In a dry run, what would have become of it. -/
structure Report where
  plan : Plan
  dryRun : Bool
  created : Bool
  deleted : Bool
  added : List String
  removed : List String
  failures : List Failure
  deriving DecidableEq

namespace Report

def isChanged (report : Report) : Bool :=
  report.created || report.deleted || !report.added.isEmpty || !report.removed.isEmpty

def isFailed (report : Report) : Bool := !report.failures.isEmpty

end Report

namespace Task

/-- Attempts a change for each item: the items for which it was made, and the failures. -/
def attemptEach (change : String → Mutation) : List String → Task (List String × List Failure)
  | [] => return ([], [])
  | item :: items => do
    let outcome ← attempt (change item)
    let (succeeded, failures) ← attemptEach change items
    match outcome with
    | .ok () => return (item :: succeeded, failures)
    | .error cause => return (succeeded, ⟨change item, cause⟩ :: failures)

end Task

namespace Plan

def empties (plan : Plan) : Bool := plan.existed && plan.desired == 0

def forecast (plan : Plan) (options : Options) : Report where
  plan := plan
  dryRun := true
  created := plan.create
  deleted := options.removeEmpty && plan.empties
  added := plan.toAdd.toList
  removed := plan.toRemove.toList
  failures := []

/-- Creates the collection with its first members. A new collection has nothing to remove. -/
def applyNew (plan : Plan) : Task Report := do
  let items := plan.toAdd.toList
  match ← Task.attempt (.create plan.collection items) with
  | .ok () => return ⟨plan, false, true, false, items, [], []⟩
  | .error cause =>
    return ⟨plan, false, false, false, [], [], [⟨.create plan.collection items, cause⟩]⟩

/-- Adds, then removes, each in ascending order. If this leaves the collection without members, and
nothing has failed, it is deleted when the options say so. -/
def applyChanges (plan : Plan) (options : Options) : Task Report := do
  let (added, notAdded) ← Task.attemptEach (.add plan.collection) plan.toAdd.toList
  let (removed, notRemoved) ← Task.attemptEach (.remove plan.collection) plan.toRemove.toList
  let failures := notAdded ++ notRemoved
  if options.removeEmpty && plan.empties && failures.isEmpty then
    match ← Task.attempt (.delete plan.collection) with
    | .ok () => return ⟨plan, false, false, true, added, removed, []⟩
    | .error cause =>
      return ⟨plan, false, false, false, added, removed, [⟨.delete plan.collection, cause⟩]⟩
  else return ⟨plan, false, false, false, added, removed, failures⟩

def apply (plan : Plan) (options : Options) : Task Report :=
  if options.dryRun then return plan.forecast options
  else if plan.create then plan.applyNew
  else plan.applyChanges options

end Plan

end SmartCollections
