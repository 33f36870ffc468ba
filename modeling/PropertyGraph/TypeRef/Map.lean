import PropertyGraph.TypeRef

/-!
# Maps from types

A map has at most one entry for each type. What an operation answers is told beside the map that it
leaves behind.
-/
namespace PropertyGraph

/-- A map from types. -/
structure TypeMap (α : Type) where
  /-- The entries, each type once. -/
  entries : List (TypeRef × α) := []

namespace TypeMap

variable {α : Type}

/-- The map without entries. -/
def empty : TypeMap α := {}

/-- The value of a type. -/
def get? (map : TypeMap α) (type : TypeRef) : Option α :=
  map.entries.lookup type

/-- The map has an entry for the type. -/
def contains (map : TypeMap α) (type : TypeRef) : Bool :=
  (map.get? type).isSome

/-- The map without the entry of a type. -/
def erase (map : TypeMap α) (type : TypeRef) : TypeMap α :=
  ⟨map.entries.filter (·.1 != type)⟩

/-- The map with a value for a type in place of the old one. -/
def put (map : TypeMap α) (type : TypeRef) (value : α) : TypeMap α :=
  ⟨(type, value) :: (map.erase type).entries⟩

/-- Puts a value for a type, telling the old one. -/
def insert (map : TypeMap α) (type : TypeRef) (value : α) : Option α × TypeMap α :=
  (map.get? type, map.put type value)

/-- Puts a value for a type that has none, telling whether it did. The value is made only then. -/
def tryInsert (map : TypeMap α) (type : TypeRef) (make : Unit → α) : Bool × TypeMap α :=
  if map.contains type then (false, map) else (true, map.put type (make ()))

/-- Changes the value of a type, telling the new one. -/
def modify (map : TypeMap α) (type : TypeRef) (change : α → α) : Option α × TypeMap α :=
  match map.get? type with
  | some value => (some (change value), map.put type (change value))
  | none => (none, map)

/-- Removes the entry of a type, telling its value. -/
def remove (map : TypeMap α) (type : TypeRef) : Option α × TypeMap α :=
  (map.get? type, map.erase type)

/-- The values in any order. -/
def values (map : TypeMap α) : List α :=
  map.entries.map (·.2)

/-- Number of entries. -/
def size (map : TypeMap α) : Nat :=
  map.entries.length

/-- There are no entries. -/
def isEmpty (map : TypeMap α) : Bool :=
  map.entries.isEmpty

end TypeMap

end PropertyGraph
