/-!
# Tables by name

A table holds entries under distinct names, in the order in which the names were first put in.
-/
namespace PropertyGraph

/-- Entries that are found by a name, in the order of their first insertion. -/
abbrev NameTable (α : Type) := List (String × α)

namespace NameTable

variable {α : Type}

/-- Puts an entry under a name: in place of the one that is there, or behind all others. -/
def put (table : NameTable α) (name : String) (entry : α) : NameTable α :=
  match table with
  | [] => [(name, entry)]
  | (other, old) :: rest =>
    if other = name then (name, entry) :: rest else (other, old) :: put rest name entry

/-- The entry under the name is the one put there; every other name keeps its entry. -/
theorem lookup_put (table : NameTable α) (name : String) (entry : α) (other : String) :
    (table.put name entry).lookup other =
      if other = name then some entry else table.lookup other := by
  induction table with
  | nil =>
    by_cases same : other = name
    · simp [put, same]
    · simp [put, List.lookup_cons, same, beq_false_of_ne same]
  | cons head rest ih =>
    obtain ⟨first, old⟩ := head
    by_cases found : first = name
    · by_cases same : other = name
      · simp [put, found, same]
      · simp [put, List.lookup_cons, found, same, beq_false_of_ne same]
    · by_cases here : other = first
      · subst here
        simp [put, found]
      · simp [put, found, List.lookup_cons, beq_false_of_ne here, ih]

end NameTable

end PropertyGraph
