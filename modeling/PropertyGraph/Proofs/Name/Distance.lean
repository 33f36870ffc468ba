import PropertyGraph.Name.Distance

/-!
# The bounded distance

Within its bound the bounded distance is the edit distance, and beyond it there is none: neither
the lengths of the texts nor the least number of a row ever hide a distance within the bound. The
rows go through the fronts of both texts, while the edit distance is defined from their heads; the
two meet in the ways to turn one text into the other (`Edits`), which can be put behind each other,
reversed and cut.
-/
namespace PropertyGraph

/-! ## Edits -/

/-- One text is turned into another by edits of a cost, from the head on. -/
inductive Edits : List Char → List Char → Nat → Prop
  | done : Edits [] [] 0
  | delete (char : Char) {left right : List Char} {cost : Nat} :
    Edits left right cost → Edits (char :: left) right (cost + 1)
  | insert (char : Char) {left right : List Char} {cost : Nat} :
    Edits left right cost → Edits left (char :: right) (cost + 1)
  | replace (char other : Char) {left right : List Char} {cost : Nat} :
    Edits left right cost →
    Edits (char :: left) (other :: right) (cost + if char = other then 0 else 1)

/-- From nothing to a text each of its characters is put in. -/
theorem editDistance_nil_left (right : List Char) : editDistance [] right = right.length := by
  rw [editDistance]

/-- From a text to nothing each of its characters is taken out. -/
theorem editDistance_nil_right (left : List Char) : editDistance left [] = left.length := by
  cases left with
  | nil => rw [editDistance]
  | cons char left => rw [editDistance]; simp

/-- The first characters are taken out, put in or changed, whichever is the cheapest in the end. -/
theorem editDistance_cons (char other : Char) (left right : List Char) :
    editDistance (char :: left) (other :: right) =
      min (min (editDistance left (other :: right) + 1) (editDistance (char :: left) right + 1))
        (editDistance left right + if char = other then 0 else 1) := by
  rw [editDistance]

namespace Edits

variable {left right left' right' : List Char} {cost cost' : Nat}

/-- All characters of a text can be deleted. -/
theorem deletions (left : List Char) : Edits left [] left.length := by
  induction left with
  | nil => exact .done
  | cons char left ih => exact .delete char ih

/-- All characters of a text can be inserted. -/
theorem insertions (right : List Char) : Edits [] right right.length := by
  induction right with
  | nil => exact .done
  | cons char right ih => exact .insert char ih

/-- The lesser one of two costs is the cost of edits. -/
theorem least (edits : Edits left right cost) (edits' : Edits left right cost') :
    Edits left right (min cost cost') := by
  rw [Nat.min_def]
  split
  · exact edits
  · exact edits'

/-- The edit distance is the cost of edits. -/
theorem of_editDistance (left right : List Char) :
    Edits left right (editDistance left right) := by
  fun_induction editDistance left right with
  | case1 right => exact insertions right
  | case2 left _ => exact deletions left
  | case3 char left other right deleted inserted replaced =>
    exact ((deleted.delete char).least (inserted.insert other)).least (replaced.replace char other)

/-- No edits cost less than the edit distance. -/
theorem editDistance_le (edits : Edits left right cost) : editDistance left right ≤ cost := by
  induction edits with
  | done => exact Nat.le_of_eq (editDistance_nil_left [])
  | @delete char left right cost _ ih =>
    cases right with
    | nil =>
      rw [editDistance_nil_right] at ih ⊢
      exact Nat.succ_le_succ ih
    | cons other right =>
      rw [editDistance_cons]
      omega
  | @insert char left right cost _ ih =>
    cases left with
    | nil =>
      rw [editDistance_nil_left] at ih ⊢
      exact Nat.succ_le_succ ih
    | cons other left =>
      rw [editDistance_cons]
      omega
  | replace char other _ ih =>
    rw [editDistance_cons]
    omega

/-- Edits of one text are followed by edits of another. -/
theorem append (edits : Edits left right cost) (edits' : Edits left' right' cost') :
    Edits (left ++ left') (right ++ right') (cost + cost') := by
  induction edits with
  | done => simpa using edits'
  | delete char _ ih => simpa [Nat.add_right_comm] using ih.delete char
  | insert char _ ih => simpa [Nat.add_right_comm] using ih.insert char
  | replace char other _ ih => simpa [Nat.add_right_comm] using ih.replace char other

/-- Edits can be made from the end on. -/
theorem reverse (edits : Edits left right cost) : Edits left.reverse right.reverse cost := by
  induction edits with
  | done => exact .done
  | delete char _ ih => simpa using ih.append (.delete char .done)
  | insert char _ ih => simpa using ih.append (.insert char .done)
  | replace char other _ ih => simpa using ih.append (.replace char other .done)

/-- Edits of a text in two parts come by a front of the other text, at no higher cost. -/
theorem exists_front {front later : List Char} (edits : Edits (front ++ later) right cost) :
    ∃ reached rest cost', right = reached ++ rest ∧ cost' ≤ cost ∧ Edits front reached cost' := by
  generalize whole : front ++ later = left at edits
  induction edits generalizing front with
  | done =>
    obtain ⟨rfl, rfl⟩ := List.append_eq_nil_iff.1 whole
    exact ⟨[], [], 0, rfl, Nat.le_refl 0, .done⟩
  | @delete char left right cost _ ih =>
    cases front with
    | nil => exact ⟨[], right, 0, rfl, Nat.zero_le _, .done⟩
    | cons first front =>
      obtain ⟨rfl, inside⟩ := List.cons.inj whole
      obtain ⟨reached, rest, cost', rfl, cheap, edits⟩ := ih inside
      exact ⟨reached, rest, cost' + 1, rfl, Nat.succ_le_succ cheap, .delete first edits⟩
  | @insert char left right cost _ ih =>
    obtain ⟨reached, rest, cost', rfl, cheap, edits⟩ := ih whole
    exact ⟨char :: reached, rest, cost' + 1, rfl, Nat.succ_le_succ cheap, .insert char edits⟩
  | @replace char other left right cost _ ih =>
    cases front with
    | nil => exact ⟨[], other :: right, 0, rfl, Nat.zero_le _, .done⟩
    | cons first front =>
      obtain ⟨rfl, inside⟩ := List.cons.inj whole
      obtain ⟨reached, rest, cost', rfl, cheap, edits⟩ := ih inside
      exact ⟨other :: reached, rest, _, rfl, Nat.add_le_add_right cheap _,
        .replace first other edits⟩

/-- Edits cost as many insertions or deletions at least as the lengths of the texts differ. -/
theorem length_le (edits : Edits left right cost) :
    left.length ≤ right.length + cost ∧ right.length ≤ left.length + cost := by
  induction edits with
  | done => simp
  | delete | insert | replace => simp only [List.length_cons]; omega

end Edits

/-- Both texts may be read from their ends. -/
theorem editDistance_reverse (left right : List Char) :
    editDistance left.reverse right.reverse = editDistance left right := by
  apply Nat.le_antisymm
  · exact (Edits.of_editDistance left right).reverse.editDistance_le
  · have edits := (Edits.of_editDistance left.reverse right.reverse).reverse
    rw [List.reverse_reverse, List.reverse_reverse] at edits
    exact edits.editDistance_le

/-- The edit distance by the last characters of both texts. -/
theorem editDistance_concat (left right : List Char) (char other : Char) :
    editDistance (left ++ [char]) (right ++ [other]) =
      min (min (editDistance left (right ++ [other]) + 1)
          (editDistance (left ++ [char]) right + 1))
        (editDistance left right + if char = other then 0 else 1) := by
  have step := editDistance_cons char other left.reverse right.reverse
  rw [← List.reverse_concat, ← List.reverse_concat] at step
  simpa only [editDistance_reverse, List.concat_eq_append] using step

/-! ## Rows -/

namespace BoundedDistance

/-- The distances between a text and the fronts of another one, from a front on. -/
def distances (left : List Char) (front : List Char) : List Char → List Nat
  | [] => [editDistance left front]
  | char :: later => editDistance left front :: distances left (front ++ [char]) later

variable {left : List Char}

/-- The first of the distances is that to the front itself. -/
theorem distances_eq_cons (left front later : List Char) :
    distances left front later = editDistance left front :: (distances left front later).tail := by
  cases later <;> rfl

/-- The first row counts the characters of the fronts. -/
theorem distances_nil (front later : List Char) :
    distances [] front later = List.range' front.length (later.length + 1) := by
  induction later generalizing front with
  | nil => simp [distances, editDistance_nil_left]
  | cons char later ih =>
    rw [distances, ih, editDistance_nil_left, List.length_append, List.length_singleton,
      List.length_cons]
    rfl

/-- A row is extended by the recursion at the ends of the texts. -/
theorem extendRow_distances (char : Char) (front later : List Char) :
    extendRow char (editDistance (left ++ [char]) front) later (distances left front later) =
      (distances (left ++ [char]) front later).tail := by
  induction later generalizing front with
  | nil => rfl
  | cons other later ih =>
    rw [distances, distances_eq_cons left, extendRow, ← editDistance_concat,
      ← distances_eq_cons left, ih, distances, List.tail_cons, ← distances_eq_cons]

/-- The row below the one of a text is that of the text with one more character. -/
theorem nextRow_distances (char : Char) (right : List Char) :
    nextRow char right (left.length + 1) (distances left [] right) =
      distances (left ++ [char]) [] right := by
  have first : editDistance (left ++ [char]) [] = left.length + 1 := by
    rw [editDistance_nil_right, List.length_append, List.length_singleton]
  rw [nextRow, distances_eq_cons (left ++ [char]), ← first, extendRow_distances]

/-- The last number of a row is the distance between the texts. -/
theorem getLast?_distances (front later : List Char) :
    (distances left front later).getLast? = some (editDistance left (front ++ later)) := by
  induction later generalizing front with
  | nil => simp [distances]
  | cons char later ih =>
    rw [distances, distances_eq_cons, List.getLast?_cons_cons, ← distances_eq_cons, ih,
      List.append_assoc, List.singleton_append]

/-- Every front of the other text has its distance in the row. -/
theorem mem_distances (front reached rest : List Char) :
    editDistance left (front ++ reached) ∈ distances left front (reached ++ rest) := by
  induction reached generalizing front with
  | nil =>
    rw [List.append_nil, distances_eq_cons]
    exact List.mem_cons_self
  | cons char reached ih =>
    rw [List.cons_append, distances]
    have further := ih (front ++ [char])
    rw [List.append_assoc, List.singleton_append] at further
    exact List.mem_cons_of_mem _ further

/-- No number of a row is below its least one. -/
theorem rowMinimum_le {row : List Nat} {number : Nat} (among : number ∈ row) :
    rowMinimum row ≤ number := by
  have least : ∀ (rest : List Nat) (first : Nat), rest.foldl min first ≤ first ∧
      ∀ number ∈ rest, rest.foldl min first ≤ number := by
    intro rest
    induction rest with
    | nil => simp
    | cons next rest ih =>
      intro first
      obtain ⟨below, each⟩ := ih (min first next)
      refine ⟨Nat.le_trans below (Nat.min_le_left _ _), fun number among => ?_⟩
      rcases List.mem_cons.1 among with rfl | among
      · exact Nat.le_trans below (Nat.min_le_right _ _)
      · exact each number among
  cases row with
  | nil => cases among
  | cons first rest =>
    rcases List.mem_cons.1 among with rfl | among
    · exact (least rest number).1
    · exact (least rest first).2 number among

/-- A row above the bound leaves no distance within it, whatever characters follow. -/
theorem lt_editDistance_of_lt_rowMinimum {bound : Nat} {right : List Char}
    (above : bound < rowMinimum (distances left [] right)) (later : List Char) :
    bound < editDistance (left ++ later) right := by
  obtain ⟨reached, rest, cost, rfl, cheap, edits⟩ :=
    (Edits.of_editDistance (left ++ later) right).exists_front
  have among : editDistance left reached ∈ distances left [] (reached ++ rest) :=
    mem_distances [] reached rest
  calc bound
    _ < rowMinimum (distances left [] (reached ++ rest)) := above
    _ ≤ editDistance left reached := rowMinimum_le among
    _ ≤ cost := edits.editDistance_le
    _ ≤ editDistance (left ++ later) (reached ++ rest) := cheap

/-- Going through the rest of a text from the row of its front gives the distance of the whole, if
it is within the bound. By induction on the rest, which moves into the front. -/
theorem run_distances (bound : Nat) (right later : List Char) :
    ∀ front : List Char, run bound right front.length (distances front [] right) later =
      if editDistance (front ++ later) right ≤ bound
        then some (editDistance (front ++ later) right) else none := by
  induction later with
  | nil =>
    intro front
    rw [run, getLast?_distances]
    simp
  | cons char later ih =>
    intro front
    have further := ih (front ++ [char])
    rw [List.append_assoc, List.singleton_append, List.length_append, List.length_singleton]
      at further
    simp only [run, nextRow_distances]
    split
    · next above =>
      have beyond := lt_editDistance_of_lt_rowMinimum above later
      rw [List.append_assoc, List.singleton_append] at beyond
      rw [if_neg (Nat.not_le.2 beyond)]
    · exact further

end BoundedDistance

/-! ## Distances -/

/-- The bounded distance is the edit distance within the bound. -/
theorem boundedDistance_eq (bound : Nat) (left right : List Char) :
    boundedDistance bound left right =
      if editDistance left right ≤ bound then some (editDistance left right) else none := by
  obtain ⟨shorter, longer⟩ := (Edits.of_editDistance left right).length_le
  rw [boundedDistance]
  split
  · next apart => rw [if_neg (by omega)]
  · next near =>
    split
    · next isEmpty =>
      obtain rfl := List.isEmpty_iff.1 isEmpty
      rw [List.length_nil] at near
      rw [editDistance_nil_right, if_pos (by omega)]
    · have rows := BoundedDistance.run_distances bound right left []
      rwa [BoundedDistance.distances_nil, List.length_nil, ← List.range_eq_range',
        List.nil_append] at rows

/-- The distance of two names without regard to case is the edit distance of their characters in
lower case, if that is within the bound, and there is none otherwise. -/
theorem foldedDistance_eq (left right : String) (bound : Nat) :
    foldedDistance left right bound =
      let distance := editDistance (left.toList.flatMap Text.lowerChar)
        (right.toList.flatMap Text.lowerChar)
      if distance ≤ bound then some distance else none :=
  boundedDistance_eq bound (Text.fold left) (Text.fold right)

end PropertyGraph
