import SmartCollections.Disk
import SmartCollections.Document.Json.Reader
import SmartCollections.Document.Toml.Reader
import SmartCollections.Document.Yaml.Reader
import SmartCollections.Settings
import SmartCollections.Settings.Environment

/-!
Settings from their sources: a file over the standard settings, and the environment over the file.
What a text in one of the formats stands for is left to a reader. The reader here takes TOML and
JSON, and YAML without directives, anchors, aliases and tags.
-/
namespace SmartCollections

inductive SettingsFormat where
  | toml
  | yaml
  | json
  deriving DecidableEq

namespace SettingsFormat

/-- The extension of a file says its format. A file without a known extension is TOML. -/
def ofPath (path : String) : SettingsFormat :=
  match Path.extension? path with
  | some "yaml" | some "yml" => yaml
  | some "json" => json
  | _ => toml

/-- How many lists and tables of a JSON file may be inside one another. -/
def jsonDepth : Nat := 127

def read? (format : SettingsFormat) (text : String) : Option Document := do
  let document ← match format with
    | toml => Toml.read text.toList
    | yaml => Yaml.read text.toList
    | json => Json.read (some jsonDepth) none text.toList
  match ← document.settled? with
  | .table entries => some (.table entries)
  | _ => none

end SettingsFormat

namespace Settings

def variablePrefix : String := "CURATE_"

def decodeFile (read? : SettingsFormat → String → Option Document) (path : String)
    (bytes : ByteArray) : Except SettingsError Document :=
  match (String.fromUTF8? bytes).bind (read? (SettingsFormat.ofPath path)) with
  | some document => .ok document
  | none => .error .load

variable {m : Type → Type} [Monad m] (read? : SettingsFormat → String → Option Document)

/-- What the settings file at a path says. A file need not be there unless it was asked for. A
folder in its place says nothing. -/
def readFile (disk : Disk m) (path : String) (askedFor : Bool) :
    m (Except SettingsError (List Document)) := do
  match ← disk.read path with
  | .ok bytes => return (decodeFile read? path bytes).map ([·])
  | .error .isDirectory => return .ok []
  | .error (.other _) => return .error .load
  | .error _ => return if askedFor then .error (.notFound path) else .ok []

/-- Loads the settings from the file that was asked for, if there is one, or else from the usual
file, and from environment variables. Relative paths start at the folder of the file. -/
def loadBy (disk : Disk m) (askedFor usual : Option String) (environment : List (String × String)) :
    m (Except SettingsError Settings) := do
  match askedFor <|> usual with
  | none => return .error .noFolder
  | some path =>
    match ← readFile read? disk path askedFor.isSome with
    | .error error => return .error error
    | .ok documents =>
      match ofLayers (documents ++ [Environment.document variablePrefix environment]) with
      | .error error => return .error error
      | .ok settings =>
        return .ok { settings with host := settings.host.resolve ((Path.parent? path).getD ".") }

def load : Disk m → (askedFor usual : Option String) → List (String × String) →
    m (Except SettingsError Settings) := loadBy SettingsFormat.read?

end Settings

end SmartCollections
