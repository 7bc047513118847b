import SmartCollections.Collections
import SmartCollections.Document.Json.Reader
import SmartCollections.Document.Json.Writer

/-!
Collections as JSON text: a table from names to lists of ids. Of a name that occurs twice the last
list counts. Written out, names and ids are in ascending order.
-/
namespace SmartCollections.Collections

open Document

def entry? (entry : String × Document) : Option (String × StringSet) :=
  (list? text? entry.2).map fun ids => (entry.1, .ofList ids)

def ofDocument? : Document → Option Collections
  | .table entries => (entries.mapM entry?).map ofList
  | _ => none

def toDocument (c : Collections) : Document :=
  .table (c.entries.map fun entry => (entry.1, .list (entry.2.toList.map .text)))

/-- The text of the file that keeps the collections. -/
def toText (c : Collections) : String := Json.pretty c.toDocument

end SmartCollections.Collections
