import PropertyGraph.Name.Distance

/-!
# Suggestions for a mistyped name

The known names that are close to one that is not known: those within a distance, ordered by
distance and then by name, each once and no more than a given number. The order of the candidates
has no influence.
-/
namespace PropertyGraph

/-- How close a suggested name has to be, and how many are given. -/
structure SuggestionEngine where
  /-- The largest distance of a suggestion. -/
  maxDistance : Nat := 2
  /-- The largest number of suggestions. -/
  maxSuggestions : Nat := 5
deriving DecidableEq, Repr, Inhabited

namespace SuggestionEngine

/-- A candidate with its distance. -/
abbrev Match := Nat × String

/-- The order of matches: by distance, then by name. -/
def precedes (left right : Match) : Bool :=
  left.1 < right.1 || (left.1 == right.1 && left.2 ≤ right.2)

/-- Removes every match whose name is that of the match before it, the first included. -/
def dropRepeatsOf (previous : String) : List Match → List Match
  | [] => []
  | found :: rest =>
    if found.2 = previous then dropRepeatsOf previous rest
    else found :: dropRepeatsOf found.2 rest

/-- Removes every match whose name is that of the match before it. -/
def dropRepeats : List Match → List Match
  | [] => []
  | found :: rest => found :: dropRepeatsOf found.2 rest

/-- The candidates within the distance, with theirs. -/
def nearMatches (engine : SuggestionEngine) (name : String) (candidates : List String) :
    List Match :=
  candidates.filterMap fun candidate =>
    (foldedDistance name candidate engine.maxDistance).map (·, candidate)

/-- The names to suggest in place of one that is not known. -/
def suggest (engine : SuggestionEngine) (name : String) (candidates : List String) :
    List String :=
  let ordered := (engine.nearMatches name candidates).mergeSort precedes
  ((dropRepeats ordered).take engine.maxSuggestions).map (·.2)

end SuggestionEngine

end PropertyGraph
