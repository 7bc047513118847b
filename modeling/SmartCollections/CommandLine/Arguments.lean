/-!
The words of a command line: options, and a command with options of its own. An option that holds
for all commands may come before the command or after it, and the one after it counts.
-/
namespace SmartCollections.CommandLine

inductive Command where
  | check
  | plan
  | sync (dryRun : Bool)
  deriving DecidableEq

inductive Request where
  | run (settingsPath : Option String) (command : Command)
  | help
  | version
  | misuse
  deriving DecidableEq

inductive Word where
  /-- Says that no options follow. -/
  | terminator
  | long (name : String) (value : Option String)
  | short (letters : List Char)
  | plain (text : String)

def Word.ofText (text : String) : Word :=
  match text.toList with
  | ['-', '-'] => .terminator
  | '-' :: '-' :: chars =>
    let name := String.ofList (chars.takeWhile (· ≠ '='))
    match chars.dropWhile (· ≠ '=') with
    | _ :: value => .long name (some (String.ofList value))
    | [] => .long name none
  | '-' :: letter :: letters => .short (letter :: letters)
  | _ => .plain text

/-- Where an option stands: before the command, or after a command. -/
inductive Level where
  | top
  | check
  | plan
  | sync
  deriving DecidableEq

def Level.ofCommand? : String → Option Level
  | "check" => some check
  | "plan" => some plan
  | "sync" => some sync
  | _ => none

structure Given where
  settingsPath : Option String
  /-- How much is to be logged. -/
  verbosity : Nat
  dryRun : Bool

namespace Given

def none : Given := ⟨.none, 0, false⟩

def addVerbosity (given : Given) : Given := { given with verbosity := given.verbosity + 1 }

/-- Sets the path of the settings. It is not empty, and is given once. -/
def withPath (given : Given) (path : String) : Except Request Given :=
  if path.isEmpty || given.settingsPath.isSome then .error .misuse
  else .ok { given with settingsPath := some path }

def withDryRun (given : Given) : Except Request Given :=
  if given.dryRun then .error .misuse else .ok { given with dryRun := true }

end Given

/-- What the letters of a word add: the options, and whether a path has to follow. -/
def readLetters (level : Level) (given : Given) : List Char → Except Request (Given × Bool)
  | [] => .ok (given, false)
  | 'v' :: letters => readLetters level given.addVerbosity letters
  | 'h' :: _ => .error .help
  | 'V' :: _ => .error (if level = .top then .version else .misuse)
  | ['c'] => .ok (given, true)
  | 'c' :: '=' :: path => (given.withPath (String.ofList path)).map (·, false)
  | 'c' :: path => (given.withPath (String.ofList path)).map (·, false)
  | _ => .error .misuse

/-- What an option with a name adds: the options, and whether a path has to follow. -/
def readName (level : Level) (given : Given) (name : String) (value : Option String) :
    Except Request (Given × Bool) :=
  match name, value with
  | "config", some path => (given.withPath path).map (·, false)
  | "config", none => .ok (given, true)
  | "verbose", none => .ok (given.addVerbosity, false)
  | "help", none => .error .help
  | "version", none => .error (if level = .top then .version else .misuse)
  | "dry-run", none =>
    if level = .sync then given.withDryRun.map (·, false) else .error .misuse
  | _, _ => .error .misuse

def readOption (level : Level) (given : Given) : Word → Except Request (Given × Bool)
  | .short letters => readLetters level given letters
  | .long name value => readName level given name value
  | _ => .error .misuse

/-- Reads options up to a word that is none. -/
def readOptions (level : Level) (given : Given) :
    List String → Except Request (Given × List String)
  | [] => .ok (given, [])
  | word :: rest =>
    match Word.ofText word with
    | .plain _ => .ok (given, word :: rest)
    | .terminator => if rest.isEmpty then .ok (given, []) else .error .misuse
    | option =>
      match readOption level given option with
      | .error request => .error request
      | .ok (given, false) => readOptions level given rest
      | .ok (given, true) =>
        match rest with
        | [] => .error .misuse
        | path :: rest =>
          match Word.ofText path with
          | .plain _ =>
            match given.withPath path with
            | .error request => .error request
            | .ok given => readOptions level given rest
          | _ => .error .misuse

def Level.command? (level : Level) (given : Given) : Option Command :=
  match level with
  | top => none
  | check => some .check
  | plan => some .plan
  | sync => some (.sync given.dryRun)

def readCommand (given : Given) (level : Level) (words : List String) : Request :=
  match readOptions level .none words with
  | .error request => request
  | .ok (own, []) =>
    match level.command? own with
    | some command => .run (own.settingsPath <|> given.settingsPath) command
    | none => .misuse
  | .ok (_, _ :: _) => .misuse

/-- What the words of a command line ask for. -/
def read (words : List String) : Request :=
  match readOptions .top .none words with
  | .error request => request
  | .ok (_, []) => .misuse
  | .ok (given, word :: rest) =>
    match Level.ofCommand? word with
    | some level => readCommand given level rest
    | none =>
      if word ≠ "help" then .misuse
      else match rest with
        | [] => .help
        | [topic] => if topic = "help" ∨ (Level.ofCommand? topic).isSome then .help else .misuse
        | _ => .misuse

end SmartCollections.CommandLine
