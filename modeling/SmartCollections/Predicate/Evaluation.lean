import SmartCollections.Item
import SmartCollections.Predicate
import SmartCollections.Text.Case
import SmartCollections.Text.Substring

/-!
When an item satisfies a predicate. A field match holds if its text occurs in some value of the
field; an absent value has no text in it, not even the empty one. Without regard to case, both
texts are compared in lower case.
-/
namespace SmartCollections

open Text

/-- The values of an item's field: one title, at most one studio, any number of the others. -/
def Field.values (field : Field) (item : Item) : List String :=
  match field with
  | title => [item.title]
  | studio => item.studio.toList
  | genre => item.genres.toList
  | actor => item.actors.toList
  | director => item.directors.toList

def valueContains (caseSensitive : Bool) (text value : String) : Bool :=
  if caseSensitive then occursIn text.toList value.toList
  else occursIn (lower text.toList) (lower value.toList)

/-- Some value of the field contains the text. -/
def Field.contains (field : Field) (caseSensitive : Bool) (text : String) (item : Item) : Bool :=
  (field.values item).any (valueContains caseSensitive text)

def Predicate.eval (caseSensitive : Bool) (item : Item) : Predicate → Bool
  | contains field text => field.contains caseSensitive text item
  | and left right => left.eval caseSensitive item && right.eval caseSensitive item
  | or left right => left.eval caseSensitive item || right.eval caseSensitive item

end SmartCollections
