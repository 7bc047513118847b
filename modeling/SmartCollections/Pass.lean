import SmartCollections.Pass.Flight
import SmartCollections.Pass.Summary

/-!
A pass brings every collection that a rule names in line with its rules. All collections are
compared with one catalog, which is fetched once. A collection whose members cannot be looked up is
passed over; only a missing catalog ends the pass.
-/
namespace SmartCollections

inductive Event where
  | started
  | catalogLoaded (items : Nat)
  | reconciled (report : Report)
  | failed (error : PassError)
  | complete (summary : Summary)
  deriving DecidableEq

namespace Event

def ofResult : Except PassError Report → Event
  | .ok report => reconciled report
  | .error error => failed error

def report? : Event → Option Report
  | reconciled report => some report
  | _ => none

/-- How the pass ended, if this is the event that says so. -/
def ending? : Event → Option (Except PassError Summary)
  | complete summary => some (.ok summary)
  | failed error => if error.isFatal then some (.error error) else none
  | _ => none

end Event

structure Pass where
  rules : CompiledRules
  options : Options

namespace Pass

/-- The work on one collection: a lookup, then the changes that make up the difference. -/
def task (pass : Pass) (catalog : List Item) (collection : String) :
    Task (Except PassError Report) :=
  .lookup collection fun
    | .error cause => return .error (.membership collection cause)
    | .ok members => do
      let plan := reconcile collection (pass.rules.rulesFor collection) catalog members
      return .ok (← plan.apply pass.options)

def tasks (pass : Pass) (catalog : List Item) : List (Task (Except PassError Report)) :=
  pass.rules.collections.toList.map (pass.task catalog)

def summarize (pass : Pass) (results : List (Except PassError Report)) : Summary :=
  results.foldl Summary.count (.start pass.options.dryRun pass.rules.diagnostics.length)

/-- The events of a pass, in order. -/
def events (pass : Pass) (catalog : List Item) (results : List (Except PassError Report)) :
    List Event :=
  [.started, .catalogLoaded catalog.length] ++ results.map Event.ofResult ++
    [.complete (pass.summarize results)]

variable {m : Type → Type} [Monad m]

/-- Runs a pass. The tasks of the collections take the given turns, and what they have not done then
is done collection by collection. -/
def run (pass : Pass) (fetch : m (Except HostError (List Item))) (store : Store m)
    (turns : List Nat) : m (List Event) := do
  match ← fetch with
  | .error cause => return [.started, .failed (.catalog cause)]
  | .ok catalog =>
    let flight := Flight.start pass.options.concurrency (pass.tasks catalog)
    return pass.events catalog (← flight.run store turns)

/-- The reports and the summary that a list of events ends in, or the error that ended the pass.
There is nothing to say about a pass that has not come to an end. -/
def outcome? (events : List Event) : Option (Except PassError (List Report × Summary)) :=
  (events.findSome? Event.ending?).map fun
    | .ok summary => .ok (events.filterMap Event.report?, summary)
    | .error error => .error error

end Pass

end SmartCollections
