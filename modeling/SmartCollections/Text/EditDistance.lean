/-!
Edit distance by optimal string alignment: the least number of insertions, deletions, substitutions
and swaps of neighbours that turn one text into another, where no part is edited twice. The table of
distances between the beginnings of both texts is filled row by row; a row is kept as a list, with
its first cell for the empty beginning of the second text.
-/
namespace SmartCollections.Text

/-- The cells of a row from one column on.

`x` is the character of this row and `x'` that of the row above, `y'` the character of the column
before. `older` starts two columns back in the row two above, `above` one column back in the row
above, and `left` is the cell before. -/
def distanceCells (x : Char) (x' y' : Option Char) :
    List Char → (older above : List Nat) → (left : Nat) → List Nat
  | y :: ys, older, diagonal :: up :: above, left =>
    let edited := min (min (up + 1) (left + 1)) (diagonal + if x = y then 0 else 1)
    let cell := match older with
      | swapped :: _ => if y' = some x ∧ x' = some y then min edited (swapped + 1) else edited
      | [] => edited
    let older := if y'.isNone then older else older.tail
    cell :: distanceCells x x' (some y) ys older (up :: above) cell
  | _, _, _, _ => []

/-- The last row of the table, given the row number, the rows above and the character of the row
above. -/
def lastDistanceRow (target : List Char) (row : Nat) (x' : Option Char) (older above : List Nat) :
    List Char → List Nat
  | [] => above
  | x :: xs =>
    let cells := (row + 1) :: distanceCells x x' none target older above (row + 1)
    lastDistanceRow target (row + 1) (some x) above cells xs

def editDistance (source target : List Char) : Nat :=
  (lastDistanceRow target 0 none [] (List.range (target.length + 1)) source).getLastD 0

end SmartCollections.Text
