/-!
Documents: the values that structured text of any format stands for. A table keeps its entries in
the order of the text, repeated keys included; what a repeated key means is for the reader of the
table to say.
-/
namespace SmartCollections

inductive Document where
  | null
  | bool (value : Bool)
  | int (value : Int)
  /-- A number that is not an integer, in the spelling of the text. -/
  | real (spelling : String)
  | text (value : String)
  | list (items : List Document)
  | table (entries : List (String × Document))
  /-- A well-formed value that has no representation: a text that is no sequence of characters, or
  a number out of range. It may stand where it is not looked at. -/
  | unreadable
  deriving Inhabited

namespace Document

def text? : Document → Option String
  | text value => some value
  | _ => none

def bool? : Document → Option Bool
  | bool value => some value
  | _ => none

/-- The numbers that a machine word of 64 bits holds. -/
def word? : Document → Option Nat
  | int value => if 0 ≤ value ∧ value < UInt64.size then some value.toNat else none
  | _ => none

def list? {α : Type} (item? : Document → Option α) : Document → Option (List α)
  | list items => items.mapM item?
  | _ => none

/-- What is found under a key that may occur once. A repeated key is a failure. -/
def unique? (entries : List (String × Document)) (key : String) : Option (Option Document) :=
  match entries.filter (·.1 == key) with
  | [] => some none
  | [entry] => some (some entry.2)
  | _ => none

/-- The values of a record with the given keys, each of which may be absent. A record is written as
a table, where further keys are ignored, or as a list in the order of the keys, where only the last
ones may be left out. -/
def record? (keys : List String) : Document → Option (List (Option Document))
  | table entries => keys.mapM (unique? entries)
  | list items =>
    if items.length ≤ keys.length then
      some (items.map some ++ List.replicate (keys.length - items.length) none)
    else none
  | _ => none

def optional? {α : Type} (value? : Document → Option α) (default : α) :
    Option Document → Option α
  | none => some default
  | some value => value? value

def required? {α : Type} (value? : Document → Option α) : Option Document → Option α
  | none => none
  | some value => value? value

end Document

end SmartCollections
