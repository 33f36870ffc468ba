import PropertyGraph.Text.Lowercase

/-!
# Distance between names

The number of single-character insertions, deletions and replacements that turn one name into
another, after both are put into lower case. `editDistance` defines it by recursion.
`boundedDistance` computes it row by row, where row `i` holds the distances between the first `i`
characters of one name and every front of the other, and gives up as soon as the distance is known
to be above a bound.
-/
namespace PropertyGraph

/-- The least number of insertions, deletions and replacements between two texts. -/
def editDistance : List Char → List Char → Nat
  | [], right => right.length
  | left, [] => left.length
  | a :: left, b :: right =>
    min (min (editDistance left (b :: right) + 1) (editDistance (a :: left) right + 1))
      (editDistance left right + if a = b then 0 else 1)
termination_by left right => left.length + right.length

namespace BoundedDistance

/-- The row of a character below an earlier row, from the second place on. The first argument is
the distance to the left of the place; the earlier row is given from the place before it. -/
def extendRow (char : Char) : Nat → List Char → List Nat → List Nat
  | left, other :: others, corner :: above :: row =>
    let distance := min (min (above + 1) (left + 1)) (corner + if char = other then 0 else 1)
    distance :: extendRow char distance others (above :: row)
  | _, _, _ => []

/-- The row of a character below an earlier row, which begins with the number of characters so
far. -/
def nextRow (char : Char) (others : List Char) (count : Nat) (row : List Nat) : List Nat :=
  count :: extendRow char count others row

/-- The least number of a row. -/
def rowMinimum : List Nat → Nat
  | [] => 0
  | first :: rest => rest.foldl min first

/-- Goes through the characters, given how many came before and their row. -/
def run (bound : Nat) (others : List Char) : Nat → List Nat → List Char → Option Nat
  | _, row, [] =>
    let distance := row.getLast?.getD 0
    if distance ≤ bound then some distance else none
  | count, row, char :: rest =>
    let row := nextRow char others (count + 1) row
    if bound < rowMinimum row then none else run bound others (count + 1) row rest

end BoundedDistance

/-- The edit distance of two texts, unless it is above the bound. -/
def boundedDistance (bound : Nat) (left right : List Char) : Option Nat :=
  if bound < left.length - right.length ∨ bound < right.length - left.length then none
  else if right.isEmpty then some left.length
  else BoundedDistance.run bound right 0 (List.range (right.length + 1)) left

/-- The edit distance of two names without regard to case, unless it is above the bound. -/
def foldedDistance (left right : String) (bound : Nat) : Option Nat :=
  boundedDistance bound (Text.fold left) (Text.fold right)

end PropertyGraph
