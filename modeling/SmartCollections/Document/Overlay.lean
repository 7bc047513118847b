import SmartCollections.Document

/-!
One document over another: a table over a table adds to it, key by key, and anything else takes the
place of what is below it.
-/
namespace SmartCollections.Document

/-- Puts a value under a key, instead of one that is there. -/
def put (entries : List (String × Document)) (key : String) (value : Document) :
    List (String × Document) :=
  match entries with
  | [] => [(key, value)]
  | entry :: rest => if entry.1 = key then (key, value) :: rest else entry :: put rest key value

mutual

def overlay (base : Document) : Document → Document
  | .table entries =>
    match base with
    | .table below => .table (overlayEntries below entries)
    | _ => .table (overlayEntries [] entries)
  | document => document

/-- Puts the entries over the ones below, one after another. -/
def overlayEntries (below : List (String × Document)) :
    List (String × Document) → List (String × Document)
  | [] => below
  | (key, value) :: rest =>
    let value := match below.lookup key with
      | some old => overlay old value
      | none => value
    overlayEntries (put below key value) rest

end

mutual

/-- The document with only the last value of a repeated key, at any depth. Nothing is left of a
document with a part that cannot be read. -/
def settled? : Document → Option Document
  | .list items => (settledItems? items).map .list
  | .table entries => (settledEntries? [] entries).map .table
  | .unreadable => none
  | document => some document

def settledItems? : List Document → Option (List Document)
  | [] => some []
  | item :: rest =>
    match settled? item, settledItems? rest with
    | some item, some rest => some (item :: rest)
    | _, _ => none

def settledEntries? (done : List (String × Document)) :
    List (String × Document) → Option (List (String × Document))
  | [] => some done
  | (key, value) :: rest =>
    match settled? value with
    | some value => settledEntries? (put done key value) rest
    | none => none

end

end SmartCollections.Document
