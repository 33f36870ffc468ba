import PropertyGraph.Value.Basic

/-!
# Named values

An ordered list of raw values with distinct names. A value that is added under a name of the list
takes the place of the old one; any other goes to the end. The names are distinct by construction,
since every list comes from the empty one by adding and removing.
-/
namespace PropertyGraph

/-- A raw value for a property. -/
structure PropertyValue where
  /-- The path of the property. -/
  name : String
  /-- The raw value. -/
  value : Value

/-- Raw values with distinct names, in the order of their addition. -/
structure PropertyValues where
  /-- The values in order. -/
  entries : List PropertyValue := []

namespace PropertyValues

/-- No values. -/
def empty : PropertyValues := {}

/-- Puts a value in place of the one of the same name, or behind the others. -/
def put (entry : PropertyValue) : List PropertyValue → List PropertyValue
  | [] => [entry]
  | other :: rest => if other.name = entry.name then entry :: rest else other :: put entry rest

/-- Adds a value; one of the same name is replaced in its place. -/
def add (values : PropertyValues) (name : String) (value : Value) : PropertyValues :=
  ⟨put ⟨name, value⟩ values.entries⟩

/-- Adds values in order. -/
def addAll (values : PropertyValues) (pairs : List (String × Value)) : PropertyValues :=
  pairs.foldl (fun values (name, value) => values.add name value) values

/-- The list of the values of pairs. -/
def ofPairs (pairs : List (String × Value)) : PropertyValues :=
  empty.addAll pairs

/-- The value of a name. -/
def get? (values : PropertyValues) (name : String) : Option Value :=
  (values.entries.find? (·.name == name)).map (·.value)

/-- The list has a value of the name. -/
def contains (values : PropertyValues) (name : String) : Bool :=
  values.entries.any (·.name == name)

/-- Removes the value of a name and gives it. -/
def remove (values : PropertyValues) (name : String) : Option Value × PropertyValues :=
  match values.entries.findIdx? (·.name == name) with
  | some place => (values.entries[place]?.map (·.value), ⟨values.entries.eraseIdx place⟩)
  | none => (none, values)

/-- The names in order. -/
def names (values : PropertyValues) : List String :=
  values.entries.map (·.name)

/-- Number of values. -/
def size (values : PropertyValues) : Nat :=
  values.entries.length

/-- There are no values. -/
def isEmpty (values : PropertyValues) : Bool :=
  values.entries.isEmpty

end PropertyValues

end PropertyGraph
