import SmartCollections.Disk
import SmartCollections.Document.Json.Decoding
import SmartCollections.Item.Record

/-!
The catalog as a file: a JSON list of items.
-/
namespace SmartCollections

def decodeCatalog? (bytes : ByteArray) : Option (List Item) :=
  (Json.decode none bytes).bind catalog?

variable {m : Type → Type} [Monad m]

/-- The items of the catalog file at a path. -/
def fetchCatalog (disk : Disk m) (path : String) : m (Except HostError (List Item)) := do
  match ← disk.read path with
  | .error fault => return .error (.io path fault)
  | .ok bytes =>
    match decodeCatalog? bytes with
    | some items => return .ok items
    | none => return .error (.invalidData path)

end SmartCollections
