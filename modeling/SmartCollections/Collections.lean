import SmartCollections.HostError
import SmartCollections.StringSet

/-!
Named collections of items, and the changes that can be made to them. A collection that does not
exist is not an empty one. The names are kept in ascending order, so collections with the same names
and members are equal.
-/
namespace SmartCollections

/-- The members of each collection, by ascending name. -/
structure Collections where
  entries : List (String × StringSet)
  ascending : (entries.map Prod.fst).Pairwise (· < ·)

namespace Collections

theorem ext {c d : Collections} (h : c.entries = d.entries) : c = d := by
  cases c; cases d; simp_all

def empty : Collections := ⟨[], StringSet.empty.ascending⟩

instance : Inhabited Collections := ⟨empty⟩

def get? (c : Collections) (name : String) : Option StringSet := c.entries.lookup name

/-- Puts an entry at its place in an ascending list, instead of one with the same name. -/
def place (name : String) (members : StringSet) :
    List (String × StringSet) → List (String × StringSet)
  | [] => [(name, members)]
  | entry :: rest =>
    if name < entry.1 then (name, members) :: entry :: rest
    else if name = entry.1 then (name, members) :: rest
    else entry :: place name members rest

theorem map_fst_place (name : String) (members : StringSet) (l : List (String × StringSet)) :
    (place name members l).map Prod.fst = StringSet.place name (l.map Prod.fst) := by
  induction l with
  | nil => rfl
  | cons entry rest ih =>
    simp only [place, StringSet.place, List.map_cons]
    split
    · rfl
    · split
      · next h => simp [h]
      · simp [ih]

/-- Sets the members of a collection, which exists from then on. -/
def set (c : Collections) (name : String) (members : StringSet) : Collections where
  entries := place name members c.entries
  ascending := by rw [map_fst_place]; exact StringSet.pairwise_place c.ascending

def erase (c : Collections) (name : String) : Collections where
  entries := c.entries.filter (·.1 ≠ name)
  ascending := c.ascending.sublist (List.filter_sublist.map Prod.fst)

/-- The entries one after another, a later one instead of an earlier one of the same name. -/
def ofList (entries : List (String × StringSet)) : Collections :=
  entries.foldl (fun c entry => c.set entry.1 entry.2) empty

end Collections

/-- A change to one collection. -/
inductive Mutation where
  /-- Make a collection with its first members. -/
  | create (collection : String) (items : List String)
  | add (collection item : String)
  | remove (collection item : String)
  | delete (collection : String)
  deriving DecidableEq

namespace Mutation

def collection : Mutation → String
  | create collection _ | add collection _ | remove collection _ | delete collection => collection

def item? : Mutation → Option String
  | add _ item | remove _ item => some item
  | _ => none

def operation : Mutation → String
  | create _ _ => "create"
  | add _ _ => "add"
  | remove _ _ => "remove"
  | delete _ => "delete"

def describe : Mutation → String
  | create collection _ => "create '" ++ collection ++ "'"
  | add collection item => "add '" ++ item ++ "' to '" ++ collection ++ "'"
  | remove collection item => "remove '" ++ item ++ "' from '" ++ collection ++ "'"
  | delete collection => "delete '" ++ collection ++ "'"

end Mutation

/-- The collections after a change. A collection can be created only if it does not exist, and
changed or deleted only if it does; adding a member or removing a stranger changes nothing. -/
def Collections.change (c : Collections) : Mutation → Except HostError Collections
  | .create name items =>
    match c.get? name with
    | some _ => .error (.alreadyExists name)
    | none => .ok (c.set name (.ofList items))
  | .add name item =>
    match c.get? name with
    | some members => .ok (c.set name (members.insert item))
    | none => .error (.notFound name)
  | .remove name item =>
    match c.get? name with
    | some members => .ok (c.set name (members.erase item))
    | none => .error (.notFound name)
  | .delete name =>
    match c.get? name with
    | some _ => .ok (c.erase name)
    | none => .error (.notFound name)

end SmartCollections
