import SmartCollections.Document
import SmartCollections.Item

/-!
Items as documents. The studio may be absent or null, the other lists may be absent; they are sets,
so their order and repetitions do not count. Written out, an item is a table, in which an absent
studio has no key.
-/
namespace SmartCollections

open Document

def studio? : Document → Option (Option String)
  | .null => some none
  | document => (text? document).map some

/-- A list of texts, taken as a set. -/
def names? (document : Document) : Option StringSet := (list? text? document).map .ofList

namespace Item

def ofDocument? (document : Document) : Option Item := do
  match ← record? ["id", "title", "studio", "genres", "actors", "directors"] document with
  | [id, title, studio, genres, actors, directors] =>
    return ⟨← required? text? id, ← required? text? title, ← optional? studio? none studio,
      ← optional? names? .empty genres, ← optional? names? .empty actors,
      ← optional? names? .empty directors⟩
  | _ => none

def toDocument (item : Item) : Document :=
  let names (names : StringSet) : Document := .list (names.toList.map .text)
  .table ([("id", .text item.id), ("title", .text item.title)] ++
    (item.studio.map fun studio => ("studio", .text studio)).toList ++
    [("genres", names item.genres), ("actors", names item.actors),
      ("directors", names item.directors)])

end Item

/-- The items of a catalog, in its order and with repetitions. -/
def catalog? : Document → Option (List Item) := list? Item.ofDocument?

end SmartCollections
