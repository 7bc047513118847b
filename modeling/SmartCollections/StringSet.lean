/-!
Finite sets of strings, kept in ascending order. The order is by code point, which is also the order
of the UTF-8 bytes. A set has one representation, so sets with the same members are equal.
-/
namespace SmartCollections

/-- Strings in strictly ascending order. -/
structure StringSet where
  toList : List String
  ascending : toList.Pairwise (· < ·)

namespace StringSet

theorem ext {s t : StringSet} (h : s.toList = t.toList) : s = t := by
  cases s; cases t; simp_all

instance : DecidableEq StringSet := fun s t =>
  if h : s.toList = t.toList then isTrue (ext h) else isFalse fun e => h (e ▸ rfl)

instance : Membership String StringSet := ⟨fun s x => x ∈ s.toList⟩

theorem mem_def {s : StringSet} {x : String} : x ∈ s ↔ x ∈ s.toList := Iff.rfl

instance (x : String) (s : StringSet) : Decidable (x ∈ s) :=
  inferInstanceAs (Decidable (x ∈ s.toList))

def empty : StringSet := ⟨[], .nil⟩

instance : Inhabited StringSet := ⟨empty⟩

def isEmpty (s : StringSet) : Bool := s.toList.isEmpty

def size (s : StringSet) : Nat := s.toList.length

/-- Puts a string at its place in an ascending list, unless it is there. -/
def place (x : String) : List String → List String
  | [] => [x]
  | y :: ys => if x < y then x :: y :: ys else if x = y then y :: ys else y :: place x ys

theorem mem_place {x y : String} {l : List String} : y ∈ place x l ↔ y = x ∨ y ∈ l := by
  induction l with
  | nil => simp [place]
  | cons z zs ih =>
    simp only [place]
    split
    · simp
    · split
      · simp_all
      · simp only [List.mem_cons, ih, or_left_comm]

theorem pairwise_place {x : String} {l : List String} (h : l.Pairwise (· < ·)) :
    (place x l).Pairwise (· < ·) := by
  induction l with
  | nil => simp [place]
  | cons z zs ih =>
    have hz := List.pairwise_cons.1 h
    simp only [place]
    split
    · next hx =>
      refine List.pairwise_cons.2 ⟨fun y hy => ?_, h⟩
      rcases List.mem_cons.1 hy with rfl | hy
      · exact hx
      · exact String.lt_trans hx (hz.1 y hy)
    · next hx =>
      split
      · exact h
      · next hne =>
        refine List.pairwise_cons.2 ⟨fun y hy => ?_, ih hz.2⟩
        rcases mem_place.1 hy with rfl | hy
        · rcases Std.lt_trichotomy y z with hlt | heq | hgt
          · exact absurd hlt hx
          · exact absurd heq hne
          · exact hgt
        · exact hz.1 y hy

def insert (s : StringSet) (x : String) : StringSet :=
  ⟨place x s.toList, pairwise_place s.ascending⟩

/-- Adds the strings one after another. -/
def insertAll (s : StringSet) (xs : List String) : StringSet := xs.foldl insert s

def ofList (xs : List String) : StringSet := empty.insertAll xs

def erase (s : StringSet) (x : String) : StringSet :=
  ⟨s.toList.filter (· ≠ x), s.ascending.filter _⟩

/-- The members of `s` that are not in `t`. -/
def diff (s t : StringSet) : StringSet := ⟨s.toList.filter (· ∉ t), s.ascending.filter _⟩

instance : SDiff StringSet := ⟨diff⟩

def union (s t : StringSet) : StringSet := s.insertAll t.toList

instance : Union StringSet := ⟨union⟩

end StringSet

end SmartCollections
