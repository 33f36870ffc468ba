import PropertyGraph.Access.Read

/-!
# Values behind keys

Optionals are seen through on the way into a value: what counts is the core of a value, and the
optionals around it are put back in the end. A key leads from a collection to an element or an
entry of it, and a row of keys leads further in.
-/
namespace PropertyGraph

namespace Value

/-- The element or the entry of a key, optionals around the collection aside. -/
def slot? (value : Value) : Segment → Option Value
  | .name _ => none
  | .key key _ =>
    match value.core with
    | .list items => (Accessor.listIndex? key).bind (items[·]?)
    | .map entries => Entries.find? key entries
    | _ => none

/-- The value that a row of keys leads to. -/
def follow? (value : Value) : List Segment → Option Value
  | [] => some value
  | segment :: later => (value.slot? segment).bind (·.follow? later)

/-- A value is a bean or it is not. -/
theorem not_bean_or_bean (value : Value) :
    (∀ ref, value ≠ .bean ref) ∨ ∃ ref, value = .bean ref := by
  cases value <;> simp

/-! ## Optionals around a value -/

/-- Optionals around a value leave its core. -/
@[simp]
theorem core_wrap (value : Value) (depth : Nat) : (value.wrap depth).core = value.core := by
  induction depth with
  | zero => rfl
  | succ depth ih => exact ih

/-- A value is its core inside the optionals around it. -/
@[simp]
theorem wrap_core_depth (value : Value) : value.core.wrap value.depth = value := by
  induction value using core.induct with
  | case1 content ih => simp only [core, depth, wrap, ih]
  | case2 value notSome => cases value <;> simp_all [core, depth, wrap]

/-- What an absent core leaves is nothing, and every other core is what is left. -/
theorem unwrapped_eq_core (value : Value) :
    value.unwrapped = if value.core.isAbsent then .null else value.core := by
  induction value using core.induct with
  | case1 content ih => exact ih
  | case2 value notSome => cases value <;> simp_all [core, isAbsent, unwrapped, present?]

/-- A value with something in its core is present. -/
theorem isAbsent_of_core {value : Value} (present : value.core.isAbsent = false) :
    value.isAbsent = false := by
  cases value with
  | optSome content => rfl
  | _ => exact present

/-- What optionals are seen through to is the core, unless it is nothing. -/
theorem core_eq_of_unwrapped {value inside : Value} (sees : value.unwrapped = inside)
    (something : inside ≠ .null) : value.core = inside := by
  rw [unwrapped_eq_core] at sees
  split at sees
  · exact absurd sees.symm something
  · exact sees

/-- Optionals are seen through to a bean. -/
theorem unwrapped_eq_bean_iff {value : Value} {ref : BeanRef} :
    value.unwrapped = .bean ref ↔ value.core = .bean ref := by
  rw [unwrapped_eq_core]
  constructor
  · intro isBean
    split at isBean
    · cases isBean
    · exact isBean
  · intro core
    simp [core, isAbsent]

/-- The slot of a key depends on the core alone. -/
theorem slot?_congr {value other : Value} (same : value.core = other.core) (segment : Segment) :
    value.slot? segment = other.slot? segment := by
  cases segment <;> simp [slot?, same]

end Value

namespace Entries

variable {α : Type}

/-- The entries are in strict order of their keys. -/
def Ordered (entries : List (String × α)) : Prop :=
  entries.Pairwise fun first second => first.1 < second.1

/-- A key leads to what was inserted under it. -/
@[simp]
theorem find?_insert_self (key : String) (value : α) (entries : List (String × α)) :
    find? key (insert key value entries) = some value := by
  induction entries with
  | nil => simp [insert, find?]
  | cons head rest ih =>
    obtain ⟨name, old⟩ := head
    by_cases same : name = key
    · simp [insert, find?, same]
    · by_cases before : key < name
      · simp [insert, find?, same, before]
      · simpa [insert, find?, same, before] using ih

/-- Every other key leads to what it led to before an insertion. -/
theorem find?_insert_of_ne {name key : String} (different : name ≠ key) (value : α)
    (entries : List (String × α)) : find? name (insert key value entries) = find? name entries := by
  induction entries with
  | nil => simp [insert, find?, different.symm]
  | cons head rest ih =>
    obtain ⟨first, old⟩ := head
    by_cases same : first = key
    · simp [insert, find?, same, different.symm]
    · by_cases before : key < first
      · simp [insert, find?, same, before, different.symm]
      · simp [insert, find?, same, before, ih]

/-- What is found under a key is an entry of that key. -/
theorem mem_of_find? {key : String} {value : α} {entries : List (String × α)}
    (found : find? key entries = some value) : (key, value) ∈ entries := by
  induction entries with
  | nil => simp [find?] at found
  | cons head rest ih =>
    obtain ⟨name, old⟩ := head
    by_cases same : name = key
    · simp_all [find?]
    · simp only [find?, same, ↓reduceIte] at found
      exact List.mem_cons_of_mem _ (ih found)

/-- Ordered entries stay the same when a key gets what it has. -/
theorem insert_of_find? {key : String} {value : α} {entries : List (String × α)}
    (ordered : Ordered entries) (found : find? key entries = some value) :
    insert key value entries = entries := by
  induction entries with
  | nil => simp [find?] at found
  | cons head rest ih =>
    obtain ⟨name, old⟩ := head
    obtain ⟨first, ordered⟩ := List.pairwise_cons.1 ordered
    by_cases same : name = key
    · simp_all [insert, find?]
    · simp only [find?, same, ↓reduceIte] at found
      have later : name < key := first _ (mem_of_find? found)
      simp [insert, same, String.lt_asymm later, ih ordered found]

end Entries

end PropertyGraph
