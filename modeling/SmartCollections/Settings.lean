import SmartCollections.Document.Overlay
import SmartCollections.Path
import SmartCollections.Plan.Execution
import SmartCollections.Rule.Record

/-!
What a run is configured with: the rules, how to bring the collections in line with them, and where
the catalog and the collections are kept.
-/
namespace SmartCollections

structure HostPaths where
  catalog : String
  collections : String
  deriving DecidableEq

structure Settings where
  rules : RuleSet
  sync : Options
  host : HostPaths
  deriving DecidableEq

inductive SettingsError where
  /-- A source cannot be read, or says something that settings do not have. -/
  | load
  | notFound (path : String)
  /-- Nobody knows where settings are usually kept. -/
  | noFolder
  | invalid (reason : String)
  deriving DecidableEq

def SettingsError.message : SettingsError → String
  | load => "failed to load configuration"
  | notFound path => "configuration file not found: " ++ path
  | noFolder => "could not determine a configuration directory"
  | invalid reason => "invalid configuration: " ++ reason

namespace HostPaths

/-- Relative paths start at a folder. -/
def resolve (folder : String) (paths : HostPaths) : HostPaths :=
  ⟨Path.join folder paths.catalog, Path.join folder paths.collections⟩

end HostPaths

namespace Settings

open Document

def standard : Settings := ⟨.empty, {}, ⟨"catalog.json", "collections.json"⟩⟩

/-- The options of a run. It can ask for a dry run, but it cannot ask for a real one when the
settings want a dry run. -/
def options (settings : Settings) (dryRun : Bool) : Options :=
  { settings.sync with dryRun := dryRun || settings.sync.dryRun }

def toDocument (settings : Settings) : Document :=
  .table [("title_rules", .list (settings.rules.titleRules.map TitleRule.toDocument)),
    ("expression_rules", .list (settings.rules.expressionRules.map ExpressionRule.toDocument)),
    ("sync", .table [("dry_run", .bool settings.sync.dryRun),
      ("remove_empty", .bool settings.sync.removeEmpty),
      ("concurrency", .int settings.sync.concurrency)]),
    ("host", .table [("catalog", .text settings.host.catalog),
      ("collections", .text settings.host.collections)])]

/-- The values of a section with the given keys, each of which may be absent. A section is written
as a table or as a list in the order of the keys; what is beyond the keys is ignored. -/
def section? (keys : List String) : Document → Option (List (Option Document))
  | .table entries => some (keys.map fun key => entries.lookup key)
  | .list items => some ((List.range keys.length).map (items[·]?))
  | _ => none

def syncSection? (document : Document) : Option Options := do
  match ← section? ["dry_run", "remove_empty", "concurrency"] document with
  | [dryRun, removeEmpty, concurrency] =>
    return ⟨← optional? bool? standard.sync.dryRun dryRun,
      ← optional? bool? standard.sync.removeEmpty removeEmpty,
      ← optional? word? standard.sync.concurrency concurrency⟩
  | _ => none

def hostSection? (document : Document) : Option HostPaths := do
  match ← section? ["catalog", "collections"] document with
  | [catalog, collections] =>
    return ⟨← optional? text? standard.host.catalog catalog,
      ← optional? text? standard.host.collections collections⟩
  | _ => none

/-- The settings that a table says. Unknown keys are ignored. -/
def ofDocument? : Document → Option Settings
  | .table entries => do
    return ⟨← RuleSet.ofFields? (entries.lookup "title_rules") (entries.lookup "expression_rules"),
      ← optional? syncSection? standard.sync (entries.lookup "sync"),
      ← optional? hostSection? standard.host (entries.lookup "host")⟩
  | _ => none

/-- The settings that remain when documents are put over the standard settings, the last document on
top. -/
def ofLayers (layers : List Document) : Except SettingsError Settings :=
  match ofDocument? (layers.foldl overlay standard.toDocument) with
  | none => .error .load
  | some settings =>
    if settings.sync.concurrency = 0 then
      .error (.invalid "sync.concurrency must be at least 1")
    else .ok settings

end Settings

end SmartCollections
