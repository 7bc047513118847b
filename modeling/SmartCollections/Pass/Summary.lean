import SmartCollections.Plan.Execution

/-!
The totals of a pass over all collections.
-/
namespace SmartCollections

inductive PassError where
  /-- There is no catalog, so there is nothing to compare with. -/
  | catalog (cause : HostError)
  /-- The members of a collection are unknown, so it is left as it is. -/
  | membership (collection : String) (cause : HostError)
  | mutation (failure : Failure)
  deriving DecidableEq

namespace PassError

def message : PassError → String
  | catalog _ => "failed to fetch the media catalog"
  | membership collection _ => "failed to look up members of collection '" ++ collection ++ "'"
  | mutation failure => "failed to " ++ failure.change.describe

def isFatal : PassError → Bool
  | catalog _ => true
  | _ => false

end PassError

structure Summary where
  dryRun : Bool
  updated : Nat
  unchanged : Nat
  /-- The collections that could not be looked up, and those with a change that was not made. -/
  failed : List String
  added : Nat
  removed : Nat
  mutationFailures : Nat
  rulesWithErrors : Nat
  deriving DecidableEq

namespace Summary

def start (dryRun : Bool) (rulesWithErrors : Nat) : Summary where
  dryRun := dryRun
  updated := 0
  unchanged := 0
  failed := []
  added := 0
  removed := 0
  mutationFailures := 0
  rulesWithErrors := rulesWithErrors

/-- Counts a collection for which a plan was made. One with failures may be updated all the same. -/
def record (summary : Summary) (report : Report) : Summary :=
  { summary with
    updated := summary.updated + if report.isChanged then 1 else 0
    unchanged := summary.unchanged + if report.isChanged then 0 else 1
    failed := summary.failed ++ if report.isFailed then [report.plan.collection] else []
    added := summary.added + report.added.length
    removed := summary.removed + report.removed.length
    mutationFailures := summary.mutationFailures + report.failures.length }

def count (summary : Summary) : Except PassError Report → Summary
  | .ok report => summary.record report
  | .error (.membership collection _) => { summary with failed := summary.failed ++ [collection] }
  | .error _ => summary

def isClean (summary : Summary) : Bool :=
  summary.failed.isEmpty && summary.mutationFailures == 0 && summary.rulesWithErrors == 0

def text (summary : Summary) : String :=
  (if summary.dryRun then "[dry run] " else "") ++
    toString summary.updated ++ " collections updated (" ++
    toString summary.unchanged ++ " unchanged, " ++
    toString summary.failed.length ++ " failed), " ++
    toString summary.added ++ " items added, " ++
    toString summary.removed ++ " removed, " ++
    toString summary.rulesWithErrors ++ " rules with errors"

end Summary

end SmartCollections
