import PropertyGraph.Access.Error
import PropertyGraph.Access.Policy
import PropertyGraph.Convert.Coercion
import PropertyGraph.Name.Suggestion

/-!
# The accessor

What an access goes by: the known types, the converter, the engine for suggestions, the policy for
metadata and the options. A name on a bean is a property of its type, or else the segment that
leads to the handle of its type. On type handles the policy is asked first, with the name as it is
written.

The known types are those of a registry, a table of property tables; an accessor goes by no other
source of capabilities.

An access is a computation on the world that may fail; what it did to the world before it failed
stays done.
-/
namespace PropertyGraph

/-- How values are written. -/
structure AccessOptions where
  /-- Absent values on the way are made. -/
  growNested : Bool := false
  /-- The first list index that is too large to extend a list to. -/
  collectionLimit : Nat := 256
  /-- The value before the write is read and reported. -/
  extractOldValue : Bool := false
deriving DecidableEq, Repr, Inhabited

/-- What accesses go by. -/
structure Accessor where
  /-- The known bean types: always a table, not any source that names capabilities. -/
  registry : Registry
  /-- Converts raw values. -/
  converter : Converter := .standard
  /-- Suggests names for mistyped ones. -/
  suggestions : SuggestionEngine := {}
  /-- Rules access to metadata. -/
  policy : MetaPolicy := DenyList.policy {}
  /-- How values are written. -/
  options : AccessOptions := {}

/-- A computation on the world that may fail with an access error. -/
abbrev Access := ExceptT AccessError (StateM World)

/-- What a name is on a bean. -/
inductive Capability where
  /-- A property of its type. -/
  | property (info : PropertyInfo)
  /-- The handle of its type. -/
  | handle

namespace Access

/-- Adds a record. -/
def record (entry : LogRecord) : Access Unit :=
  fun world => (.ok (), world.record entry)

/-- Runs what yields a value and a world. -/
def ofWorld {α : Type} (run : World → α × World) : Access α :=
  fun world =>
    let (value, world) := run world
    (.ok value, world)

/-- Runs an invocation on a bean at the end of a row of segments. -/
def invoke {α : Type} (walked : List Segment) (ref : BeanRef)
    (run : World → Except InvocationError α × World) : Access α :=
  fun world =>
    let (result, world) := run world
    (result.mapError (.invocationFailed (Segment.render walked) ref.type), world)

end Access

namespace Accessor

/-- What a name is on beans of a type. -/
def capability? (accessor : Accessor) (owner : TypeRef) (name : String) : Option Capability :=
  if owner = TypeHandle.type ∧ accessor.policy.denies name then none
  else
    match accessor.registry.describe? owner name with
    | some info => some (.property info)
    | none => if name = accessor.policy.segment then some .handle else none

/-- The names and aliases of properties of a type that can be written. -/
def writableNames (accessor : Accessor) (owner : TypeRef) : List String :=
  (accessor.registry.propertyNames owner ++ accessor.registry.aliasNames owner).filter fun name =>
    ((accessor.registry.describe? owner name).map PropertyInfo.isWritable).getD false

/-- The writable names of a type that are close to a name. -/
def suggest (accessor : Accessor) (owner : TypeRef) (name : String) : List String :=
  accessor.suggestions.suggest name (accessor.writableNames owner)

/-- The accessor in outline. -/
def outline (accessor : Accessor) : String :=
  "PropertyAccessor \x7b converter: " ++ accessor.converter.outline ++
    ", suggestions: SuggestionEngine \x7b max_distance: " ++
    toString accessor.suggestions.maxDistance ++ ", max_suggestions: " ++
    toString accessor.suggestions.maxSuggestions ++ " \x7d, meta_segment: " ++
    Text.quoted accessor.policy.segment ++
    ", options: AccessOptions \x7b auto_grow_nested_paths: " ++
    toString accessor.options.growNested ++ ", auto_grow_collection_limit: " ++
    toString accessor.options.collectionLimit ++ ", extract_old_value: " ++
    toString accessor.options.extractOldValue ++ " \x7d, .. \x7d"

end Accessor

end PropertyGraph
