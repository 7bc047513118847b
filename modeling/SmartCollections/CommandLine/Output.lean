import SmartCollections.Pass

/-!
What is printed: the rules and what is wrong with them, and what became of the collections.
-/
namespace SmartCollections.CommandLine

/-- The lines of a text, each with its end. -/
def unlines (lines : List String) : String := String.join (lines.map (· ++ "\n"))

def ruleLine (rule : CompiledRule) : String :=
  let target := rule.origin.name ++ " -> \"" ++ rule.collection ++ "\""
  match rule.predicate with
  | some predicate => "ok    " ++ target ++ ": " ++ predicate.text
  | none => "inert " ++ target

def diagnosticLines (diagnostic : RuleDiagnostic) : List String :=
  ["error " ++ diagnostic.text, "      " ++ diagnostic.source]

def checkLines (compiled : CompiledRules) : List String :=
  compiled.rules.map ruleLine ++ compiled.diagnostics.flatMap diagnosticLines ++
    [toString compiled.rules.length ++ " rules, " ++ toString compiled.diagnostics.length ++
      " with errors"]

def failureLine (failure : Failure) : String :=
  let item := match failure.change.item? with
    | some item => " " ++ item
    | none => ""
  "  failed " ++ failure.change.operation ++ item ++ ": " ++ (PassError.mutation failure).message

/-- The lines about a collection. There is nothing to say if all is as it was. -/
def reportLines (report : Report) : List String :=
  let verb := if report.dryRun then "would " else ""
  if report.isChanged || report.isFailed then
    [report.plan.collection ++ ":"] ++
      (if report.created then ["  " ++ verb ++ "create"] else []) ++
      report.added.map (fun item => "  " ++ verb ++ "add    " ++ item) ++
      report.removed.map (fun item => "  " ++ verb ++ "remove " ++ item) ++
      (if report.deleted then ["  " ++ verb ++ "delete (empty)"] else []) ++
      report.failures.map failureLine
  else []

/-- The line about an invalid rule that a pass goes without. -/
def warningLine (diagnostic : RuleDiagnostic) : String := "warning: " ++ diagnostic.text

/-- The line about an event that is an error. -/
def complaintLine? : Event → Option String
  | .failed error => some ("error: " ++ error.message)
  | _ => none

def eventLines : Event → List String
  | .reconciled report => reportLines report
  | .complete summary => [summary.text]
  | _ => []

end SmartCollections.CommandLine
