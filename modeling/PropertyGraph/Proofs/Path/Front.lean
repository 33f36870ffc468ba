import PropertyGraph.Path.Basic

/-!
# Fronts of paths

The first segments of a path are a path, and no two fronts of a path are written alike: every
segment behind the first is written with a point or a bracket at least.
-/
namespace PropertyGraph

namespace Segment

/-- A row of segments behind another one is written with no fewer characters than segments. -/
theorem length_le_laterChars (segments : List Segment) :
    segments.length ≤ (segments.flatMap laterChars).length := by
  induction segments with
  | nil => simp
  | cons segment segments ih =>
    have first : 0 < segment.laterChars.length := by
      cases segment with
      | name label => simp [laterChars, isName]
      | key label quoted => cases quoted <;> simp [laterChars, isName, chars]
    simp only [List.flatMap_cons, List.length_append, List.length_cons]
    omega

/-- A longer row of segments is written differently. -/
theorem eq_nil_of_render_append {before rest : List Segment} (nonempty : before ≠ [])
    (same : render (before ++ rest) = render before) : rest = [] := by
  obtain ⟨first, later, rfl⟩ := List.exists_cons_of_ne_nil nonempty
  have sameChars : renderChars (first :: later ++ rest) = renderChars (first :: later) :=
    String.ofList_inj.1 same
  have none : rest.flatMap laterChars = [] := by simpa [renderChars] using sameChars
  have counted := length_le_laterChars rest
  rw [none] at counted
  simpa using counted

end Segment

namespace PropertyPath

/-- The path of the first segments; that of one at least. -/
def upTo (path : PropertyPath) (count : Nat) : PropertyPath :=
  ⟨path.first, path.later.take (count - 1)⟩

variable {path : PropertyPath} {count other : Nat} {before later : List Segment}
  {segment : Segment}

/-- The path of the first segments has these segments. -/
theorem segments_upTo (positive : 0 < count) :
    (path.upTo count).segments = path.segments.take count := by
  cases count with
  | zero => simp at positive
  | succ count => rfl

/-- The front that ends with a segment. -/
theorem front_of_split (split : path.segments = before ++ segment :: later) :
    path.front (before.length + 1) = Segment.render (before ++ [segment]) := by
  have cut : (before ++ [segment] ++ later).take (before.length + 1) = before ++ [segment] :=
    List.take_left' (by simp)
  rw [front, split, List.append_cons, cut]

/-- A segment is among the segments of its path; there are more behind it or it is the last. -/
theorem length_of_split (split : path.segments = before ++ segment :: later) :
    before.length + 1 ≤ path.length ∧ (before.length + 1 < path.length ↔ later ≠ []) := by
  rw [length, split]
  cases later <;> simp

/-- A front within the path is no longer than one that is written alike. -/
theorem le_of_front_eq (positive : 0 < count) (within : other ≤ path.length)
    (same : path.front count = path.front other) : other ≤ count := by
  refine Nat.le_of_not_lt fun longer => ?_
  obtain ⟨more, rfl⟩ := Nat.exists_eq_add_of_lt longer
  have nonempty : path.segments.take count ≠ [] := by
    obtain ⟨count, rfl⟩ := Nat.exists_eq_add_of_lt positive
    simp [segments]
  rw [front, front, Nat.add_assoc, List.take_add] at same
  have none := congrArg List.length (Segment.eq_nil_of_render_append nonempty same.symm)
  rw [length] at within
  simp only [List.length_take, List.length_drop, List.length_nil] at none
  omega

/-- A front of a path is as long as it is written. -/
theorem front_injective (positive : 0 < count) (within : count ≤ path.length)
    (positive' : 0 < other) (within' : other ≤ path.length)
    (same : path.front count = path.front other) : count = other :=
  Nat.le_antisymm (le_of_front_eq positive' within same.symm)
    (le_of_front_eq positive within' same)

end PropertyPath

end PropertyGraph
