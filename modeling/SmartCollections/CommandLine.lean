import SmartCollections.Catalog
import SmartCollections.CommandLine.Arguments
import SmartCollections.CommandLine.Output
import SmartCollections.Settings.Loading
import SmartCollections.Store.File

/-!
The program: it reads the settings, then judges the rules or runs a pass over the files of the media
host. It prints what it found and did, and ends with 0 if all is well, with 1 if a rule is invalid
or a change was not made, and with 2 if it could not begin.
-/
namespace SmartCollections.CommandLine

structure Exit where
  code : Nat
  output : String
  /-- What is said about things that went wrong, line by line. -/
  complaints : List String
  deriving DecidableEq

namespace Exit

/-- The end of a run that could not go on. -/
def fatal (reason : String) : Exit := ⟨2, "", ["error: " ++ reason]⟩

end Exit

def usage : List String := [
  "Keep media collections in line with match rules",
  "",
  "Usage: curate [OPTIONS] <COMMAND>",
  "",
  "Commands:",
  "  check  Compile every rule and report the ones that don't",
  "  plan   Show what a sync would change, without changing anything",
  "  sync   Bring every rule-backed collection up to date",
  "  help   Print this message",
  "",
  "Options:",
  "  -c, --config <CONFIG>  Configuration file (TOML, YAML or JSON)",
  "  -v, --verbose...       More logging (repeatable)",
  "  -h, --help             Print help",
  "  -V, --version          Print version"]

def version : String := "curate 0.1.0-beta"

def check (compiled : CompiledRules) : Exit :=
  ⟨if compiled.hasErrors then 1 else 0, unlines (checkLines compiled), []⟩

/-- The end of a pass with the given events. -/
def exitOf (compiled : CompiledRules) (events : List Event) : Exit where
  code := match Pass.outcome? events with
    | some (.ok (_, summary)) => if summary.isClean then 0 else 1
    | _ => 2
  output := unlines (events.flatMap eventLines)
  complaints := compiled.diagnostics.map warningLine ++ events.filterMap complaintLine?

variable {m : Type → Type} [Monad m]

def runPass (disk : Disk m) (settings : Settings) (dryRun : Bool) : m Exit := do
  match ← FileStore.load disk settings.host.collections with
  | .error error => return .fatal error.message
  | .ok store =>
    let pass : Pass := ⟨settings.rules.compile, settings.options dryRun⟩
    let fetch : StateT FileStore m (Except HostError (List Item)) :=
      StateT.lift (fetchCatalog disk settings.host.catalog)
    let (events, _) ← (pass.run fetch (FileStore.store disk) []).run store
    return exitOf pass.rules events

def runCommand (disk : Disk m) (settings : Settings) : Command → m Exit
  | .check => return check settings.rules.compile
  | .plan => runPass disk settings true
  | .sync dryRun => runPass disk settings dryRun

/-- Runs the program with the words of its command line and a reader of settings files. -/
def runBy (read? : SettingsFormat → String → Option Document) (disk : Disk m)
    (usualPath : Option String) (environment : List (String × String)) (words : List String) :
    m Exit := do
  match read words with
  | .help => return ⟨0, unlines usage, []⟩
  | .version => return ⟨0, unlines [version], []⟩
  | .misuse => return .fatal "unknown command line, try '--help'"
  | .run path command =>
    match ← Settings.loadBy read? disk path usualPath environment with
    | .error error => return .fatal error.message
    | .ok settings => runCommand disk settings command

def run : Disk m → (usualPath : Option String) → List (String × String) → List String → m Exit :=
  runBy SettingsFormat.read?

end SmartCollections.CommandLine
