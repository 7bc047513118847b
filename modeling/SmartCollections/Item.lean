import SmartCollections.StringSet

/-!
Media items, as a catalog lists them. An item is known by its id, an opaque string that may be
empty. An absent studio is not an empty one.
-/
namespace SmartCollections

structure Item where
  id : String
  title : String
  studio : Option String
  genres : StringSet
  actors : StringSet
  directors : StringSet
  deriving DecidableEq

namespace Item

/-- An item of which only the id and the title are known. -/
def titled (id title : String) : Item := ⟨id, title, none, .empty, .empty, .empty⟩

/-- Sets the studio, whatever it was. -/
def withStudio (item : Item) (studio : String) : Item := { item with studio := some studio }

def withGenres (item : Item) (names : List String) : Item :=
  { item with genres := item.genres.insertAll names }

def withActors (item : Item) (names : List String) : Item :=
  { item with actors := item.actors.insertAll names }

def withDirectors (item : Item) (names : List String) : Item :=
  { item with directors := item.directors.insertAll names }

end Item

end SmartCollections
