import PropertyGraph.Graph.World
import PropertyGraph.Name.Table

/-!
# Property tables

The table of a bean type: its properties in the order of their first insertion, further names for
them, and a way to make a new bean. A property is found by the name under which it was inserted. An
alias never hides a property, and it may be inserted before the property that it stands for.
-/
namespace PropertyGraph

/-- Makes a new bean. -/
abbrev Constructor := World → BeanRef × World

/-- The properties of a bean type. -/
structure TypeMeta where
  /-- The bean type. -/
  type : TypeRef
  /-- The properties, each under the name by which it is found. -/
  slots : NameTable PropertyInfo := []
  /-- The aliases, each with the name of its property. -/
  aliases : NameTable String := []
  /-- Makes a new bean of the type. -/
  constructor? : Option Constructor := none

namespace TypeMeta

/-- The properties in order. -/
def properties (table : TypeMeta) : List PropertyInfo :=
  table.slots.map (·.2)

/-- Inserts a property. One of the same name is replaced in its place. -/
def insertProperty (table : TypeMeta) (info : PropertyInfo) : TypeMeta :=
  { table with slots := table.slots.put info.name info }

/-- Makes a name stand for a property. -/
def insertAlias (table : TypeMeta) (name property : String) : TypeMeta :=
  { table with aliases := table.aliases.put name property }

/-- The property of a name, aliases aside. -/
def property? (table : TypeMeta) (name : String) : Option PropertyInfo :=
  table.slots.lookup name

/-- The property of a name or of an alias. -/
def resolve? (table : TypeMeta) (name : String) : Option PropertyInfo :=
  (table.property? name).or ((table.aliases.lookup name).bind table.property?)

/-- Puts another property where the property of a name is, and leaves the name by which it is
found. -/
def replaceProperty? (table : TypeMeta) (name : String) (info : PropertyInfo) :
    Option TypeMeta :=
  if (table.property? name).isSome then
    some { table with slots := table.slots.put name info }
  else
    none

/-- The table can make new beans. -/
def isConstructible (table : TypeMeta) : Bool :=
  table.constructor?.isSome

/-- The names of the properties in order. -/
def propertyNames (table : TypeMeta) : List String :=
  table.properties.map (·.name)

/-- The aliases. -/
def aliasNames (table : TypeMeta) : List String :=
  table.aliases.map (·.1)

/-- The table in outline. -/
def outline (table : TypeMeta) : String :=
  "TypeMeta \x7b ty: " ++ table.type.path ++ ", properties: [" ++
    ", ".intercalate (table.properties.map PropertyInfo.outline) ++ "], constructible: " ++
    toString table.isConstructible ++ " \x7d"

end TypeMeta

end PropertyGraph
