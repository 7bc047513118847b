import SmartCollections.Collections.Record
import SmartCollections.Disk
import SmartCollections.Document.Json.Decoding
import SmartCollections.Path
import SmartCollections.Store

/-!
A store that keeps its collections in a JSON file. The collections are held in memory, too, and
every change rewrites the file. The new text goes to a temporary file first, which is then moved
over the old file, so a change that fails on the way leaves both the file and the memory as they
were.
-/
namespace SmartCollections

structure FileStore where
  path : String
  collections : Collections

namespace FileStore

def decode? (bytes : ByteArray) : Option Collections :=
  (Json.decode none bytes).bind Collections.ofDocument?

/-- The path of the temporary file. It is next to the file itself. -/
def temporary (path : String) : String := Path.withExtension path "json.tmp"

variable {m : Type → Type} [Monad m]

/-- Opens the file at a path. A missing file stands for no collections. -/
def load (disk : Disk m) (path : String) : m (Except HostError FileStore) := do
  match ← disk.read path with
  | .error .notFound => return .ok ⟨path, .empty⟩
  | .error fault => return .error (.io path fault)
  | .ok bytes =>
    match decode? bytes with
    | some collections => return .ok ⟨path, collections⟩
    | none => return .error (.invalidData path)

def persist (disk : Disk m) (path : String) (collections : Collections) :
    m (Except HostError Unit) := do
  match ← disk.write (temporary path) collections.toText.toUTF8 with
  | .error fault => return .error (.io (temporary path) fault)
  | .ok () =>
    match ← disk.rename (temporary path) path with
    | .error fault => return .error (.io path fault)
    | .ok () => return .ok ()

/-- The store after a change that has reached the file. -/
def mutate (disk : Disk m) (store : FileStore) (mutation : Mutation) :
    m (Except HostError FileStore) := do
  match store.collections.change mutation with
  | .error error => return .error error
  | .ok collections =>
    match ← persist disk store.path collections with
    | .error error => return .error error
    | .ok () => return .ok { store with collections }

/-- The calls as steps from one state of the memory to the next. Lookups do not ask the disk. -/
def store (disk : Disk m) : Store (StateT FileStore m) where
  members collection := do return .ok ((← get).collections.get? collection)
  mutate mutation := do
    match ← mutate (m := m) disk (← get) mutation with
    | .ok next => set next; return .ok ()
    | .error error => return .error error

/-- Opens the file again. If this fails, the memory stays as it is. -/
def reload (disk : Disk m) : StateT FileStore m (Except HostError Unit) := do
  match ← load (m := m) disk (← get).path with
  | .ok next => set next; return .ok ()
  | .error error => return .error error

end FileStore

end SmartCollections
