/-!
The attributes of a media item that an expression can name, and their keywords. A keyword may be
written in any mix of upper and lower case, ASCII letters only.
-/
namespace SmartCollections

inductive Field where
  | title
  | studio
  | genre
  | actor
  | director
  deriving DecidableEq, Repr

namespace Field

/-- Every field, in the order in which a word is compared with their keywords. -/
def all : List Field := [title, studio, genre, actor, director]

def keyword : Field → String
  | title => "TITLE"
  | studio => "STUDIO"
  | genre => "GENRE"
  | actor => "ACTOR"
  | director => "DIRECTOR"

end Field

/-- Equal but for the case of ASCII letters. -/
def sameKeyword (word keyword : String) : Bool :=
  word.toList.map Char.toUpper == keyword.toList.map Char.toUpper

def Field.ofKeyword? (word : String) : Option Field :=
  Field.all.find? fun field => sameKeyword word field.keyword

end SmartCollections
