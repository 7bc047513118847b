import SmartCollections.Text.Case
import SmartCollections.Text.EditDistance
import SmartCollections.Token

/-!
Correction of near-miss keywords. A word is compared in upper case. The signs `&&` and `||` are
operators, a few plurals and synonyms are fields, and a word of five characters or more that is at
most one edit away from exactly one keyword is that keyword. Nothing else is changed, and no token
but a word.
-/
namespace SmartCollections

open Text

/-- Words of fewer characters are too short to be taken for a misspelling. -/
def minCorrectedLength : Nat := 5

def synonyms : List (String × Field) :=
  [("TITLES", .title), ("NAME", .title), ("STUDIOS", .studio), ("GENRES", .genre),
    ("ACTORS", .actor), ("ACTRESS", .actor), ("CAST", .actor), ("DIRECTORS", .director)]

/-- The one field whose keyword is at most one edit away. -/
def misspelt? (word : List Char) : Option Field :=
  match Field.all.filter fun field => editDistance word field.keyword.toList ≤ 1 with
  | [field] => some field
  | _ => none

/-- The token that a word was meant to be, if it is not to stay a word. -/
def correct? (word : String) : Option Token.Kind :=
  let capitals := upper word.toList
  if capitals = ['&', '&'] then some .and
  else if capitals = ['|', '|'] then some .or
  else match synonyms.lookup (String.ofList capitals) with
    | some field => some (.field field)
    | none =>
      if minCorrectedLength ≤ capitals.length then (misspelt? capitals).map .field else none

def Token.corrected (token : Token) : Token :=
  match token.kind with
  | .word text => { token with kind := (correct? text).getD token.kind }
  | _ => token

end SmartCollections
