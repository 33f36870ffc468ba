import PropertyGraph.Registry.TypeHandle

/-!
# The registry

The bean types that are known, each with its property table, and an index of their paths. A type
is registered together with the types that its fields lead to. A type that is registered already
is left as it is, and nothing behind it is looked at.
-/
namespace PropertyGraph

/-- Why a bean cannot be made. -/
inductive ConstructionError where
  /-- The type is not registered. -/
  | unregistered (type : TypeRef)
  /-- The type has no constructor without arguments. -/
  | noConstructor (type : TypeRef)
deriving DecidableEq, Repr

namespace ConstructionError

/-- The text of the error. -/
def message : ConstructionError → String
  | unregistered type => "bean type `" ++ type.path ++ "` is not registered"
  | noConstructor type => "bean type `" ++ type.path ++ "` has no zero-argument constructor"

end ConstructionError

/-- The known bean types. -/
structure Registry where
  /-- The property tables, one for each type. -/
  tables : List TypeMeta := []
  /-- The types by their paths. -/
  paths : NameTable TypeRef := []

/-- The registry that knows no type. -/
instance : Inhabited Registry := ⟨{}⟩

/-- A bean type that can be registered. -/
structure BeanClass where
  /-- Its property table. -/
  table : TypeMeta
  /-- The bean types that its fields lead to, in the order of the fields. -/
  dependencies : List TypeRef

namespace BeanClass

/-- The bean type. -/
def type (beanClass : BeanClass) : TypeRef :=
  beanClass.table.type

end BeanClass

/-- The bean types that can be registered. -/
structure Catalogue where
  /-- The bean types. -/
  classes : List BeanClass
  /-- Those that register themselves, in order. -/
  automatic : List TypeRef := []

namespace Catalogue

/-- The entry of a type. -/
def find? (catalogue : Catalogue) (type : TypeRef) : Option BeanClass :=
  catalogue.classes.find? (·.type == type)

/-- The type that tells whether types register themselves. -/
def availability : TypeRef :=
  { path := "vc_property::__macro_exports::auto_register::__AvailFlag" }

/-- The types that every catalogue holds: type handles, and the type that tells whether types
register themselves. -/
def builtin : List BeanClass :=
  [⟨TypeHandle.typeMeta, []⟩, ⟨{ type := availability }, []⟩]

end Catalogue

namespace Registry

/-- The registry of no type. -/
def empty : Registry := {}

/-- The table of a type. -/
def get? (registry : Registry) (type : TypeRef) : Option TypeMeta :=
  registry.tables.find? (·.type == type)

/-- The type is registered. -/
def contains (registry : Registry) (type : TypeRef) : Bool :=
  registry.tables.any (·.type == type)

/-- Number of registered types. -/
def size (registry : Registry) : Nat :=
  registry.tables.length

/-- The table of the type that the path was last given to. -/
def getPath? (registry : Registry) (path : String) : Option TypeMeta :=
  (registry.paths.lookup path).bind registry.get?

/-- Puts a table in place of the one of the same type, or adds it. -/
def putTable (table : TypeMeta) : List TypeMeta → List TypeMeta
  | [] => [table]
  | other :: rest =>
    if other.type = table.type then table :: rest else other :: putTable table rest

/-- Inserts a table; one of the same type is replaced. -/
def insert (registry : Registry) (table : TypeMeta) : Registry where
  tables := putTable table registry.tables
  paths := registry.paths.put table.type.path table.type

/-- Inserts a table unless its type is registered, and tells whether it did. -/
def tryInsert (registry : Registry) (table : TypeMeta) : Bool × Registry :=
  if registry.contains table.type then (false, registry) else (true, registry.insert table)

/-- Removes a type, giving its table. The path of the type no longer leads to any type. -/
def remove (registry : Registry) (type : TypeRef) : Option TypeMeta × Registry :=
  match registry.get? type with
  | none => (none, registry)
  | some table =>
    (some table,
      { tables := registry.tables.filter (·.type != type)
        paths := registry.paths.filter (·.1 != table.type.path) })

/-- Changes the table of a type, if it is registered. The change keeps the type. -/
def modify? (registry : Registry) (type : TypeRef) (change : TypeMeta → Option TypeMeta) :
    Option Registry :=
  ((registry.get? type).bind change).map fun table =>
    { registry with tables := putTable table registry.tables }

/-! ## Registration -/

/-- A table that is put adds its type to those that have a table. -/
theorem contains_putTable (table : TypeMeta) (tables : List TypeMeta) (type : TypeRef) :
    (putTable table tables).any (·.type == type) =
      (table.type == type || tables.any (·.type == type)) := by
  induction tables with
  | nil => simp [putTable]
  | cons other rest ih =>
    by_cases same : other.type = table.type
    · simp [putTable, same]
    · simp only [putTable, same, ↓reduceIte, List.any_cons, ih]
      cases other.type == type <;> simp

/-- An insertion adds the type of its table to the known ones. -/
theorem contains_insert (registry : Registry) (table : TypeMeta) (type : TypeRef) :
    (registry.insert table).contains type = (table.type == type || registry.contains type) :=
  contains_putTable table registry.tables type

/-- The types of a catalogue that are not registered. -/
def missing (registry : Registry) (catalogue : Catalogue) : List BeanClass :=
  catalogue.classes.filter fun beanClass => !registry.contains beanClass.type

/-- A registered type of the catalogue is missing no longer. -/
theorem length_missing_insert_lt {registry : Registry} {catalogue : Catalogue} {type : TypeRef}
    {beanClass : BeanClass} (absent : registry.contains type = false)
    (found : catalogue.find? type = some beanClass) :
    ((registry.insert beanClass.table).missing catalogue).length <
      (registry.missing catalogue).length := by
  have member : beanClass ∈ catalogue.classes := List.mem_of_find?_eq_some found
  have same : beanClass.type = type := by
    simpa using List.find?_some found
  have isMissing : beanClass ∈ registry.missing catalogue := by
    simp [missing, member, same, absent]
  have smaller : (registry.insert beanClass.table).missing catalogue =
      (registry.missing catalogue).filter fun other => beanClass.type != other.type := by
    simp only [missing, List.filter_filter]
    congr 1
    funext other
    rw [contains_insert]
    simp only [BeanClass.type, bne, Bool.not_or]
  rw [smaller]
  exact List.length_filter_lt_length_iff_exists.2 ⟨beanClass, isMissing, by simp⟩

/-- Registers types in order, each before the types that its fields lead to. The second result
holds the types that were registered newly. -/
def registerAll (catalogue : Catalogue) (registry : Registry) (pending : List TypeRef) :
    Registry × List TypeRef :=
  match pending with
  | [] => (registry, [])
  | type :: pending =>
    if present : registry.contains type then registerAll catalogue registry pending
    else
      match found : catalogue.find? type with
      | none => registerAll catalogue registry pending
      | some beanClass =>
        have := length_missing_insert_lt (by simpa using present) found
        let (registry, added) := registerAll catalogue (registry.insert beanClass.table)
          (beanClass.dependencies ++ pending)
        (registry, type :: added)
termination_by ((registry.missing catalogue).length, pending.length)

/-- Registers a type and the types that its fields lead to. -/
def register (catalogue : Catalogue) (registry : Registry) (type : TypeRef) :
    Registry × List TypeRef :=
  registerAll catalogue registry [type]

/-- The registry that knows type handles. -/
def withHandles : Registry :=
  empty.insert TypeHandle.typeMeta

/-- Registers the types that register themselves, unless that was done before. -/
def autoRegister (catalogue : Catalogue) (registry : Registry) : Registry × List TypeRef :=
  if registry.contains Catalogue.availability then (registry, [])
  else registerAll catalogue registry (Catalogue.availability :: catalogue.automatic)

/-! ## Capabilities -/

/-- The property of a type by name or alias. -/
def describe? (registry : Registry) (type : TypeRef) (name : String) : Option PropertyInfo :=
  (registry.get? type).bind (·.resolve? name)

/-- The property names of a type in order. -/
def propertyNames (registry : Registry) (type : TypeRef) : List String :=
  ((registry.get? type).map TypeMeta.propertyNames).getD []

/-- The aliases of a type. -/
def aliasNames (registry : Registry) (type : TypeRef) : List String :=
  ((registry.get? type).map TypeMeta.aliasNames).getD []

/-- The constructor of a type. -/
def constructor? (registry : Registry) (type : TypeRef) : Except ConstructionError Constructor :=
  match registry.get? type with
  | none => .error (.unregistered type)
  | some table =>
    match table.constructor? with
    | none => .error (.noConstructor type)
    | some make => .ok make

end Registry

end PropertyGraph
