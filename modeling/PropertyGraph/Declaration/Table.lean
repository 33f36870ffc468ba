import PropertyGraph.Declaration.Basic
import PropertyGraph.Registry.TypeMeta

/-!
# Property tables of declarations

The property table that a declared bean type has: a property for each field that is not skipped, in
order, read and written through the field itself or through the methods that its attributes name,
with the aliases of every field, and with a constructor if the attributes of the type ask for one.
-/
namespace PropertyGraph

/-- The methods of a bean type that read and write in place of a field, by name. A method that
writes is given the value as the field would show it. -/
structure BeanMethods where
  /-- Reads. -/
  read : String → Bean → Invocation Value := fun _ bean => (.ok .null, bean)
  /-- Writes. -/
  write : String → Bean → Value → Invocation Unit := fun _ bean _ => (.ok (), bean)

namespace Setter

/-- Hands the value that a field of the type takes to a method. -/
def ofMethod (receiver : TypeRef) (type : FieldType) (run : Bean → Value → Invocation Unit) :
    Setter :=
  ⟨receiver, fun bean value =>
    match type.ofValue value with
    | .ok content => run bean (type.toValue content)
    | .error cause => (.error (.value cause), bean)⟩

end Setter

namespace DeclaredProperty

/-- The capability to read the property of beans of a type. -/
def getter (methods : BeanMethods) (receiver : TypeRef) (property : DeclaredProperty FieldType) :
    Getter :=
  match property.attributes.getter? with
  | some method => ⟨receiver, methods.read method⟩
  | none => .ofField receiver property.ident

/-- The capability to write the property of beans of a type. -/
def setter (methods : BeanMethods) (receiver : TypeRef) (property : DeclaredProperty FieldType) :
    Setter :=
  match property.attributes.setter? with
  | some method => .ofMethod receiver property.type (methods.write method)
  | none => .ofField receiver property.ident property.type

/-- The property of beans of a type. -/
def info (methods : BeanMethods) (receiver : TypeRef) (property : DeclaredProperty FieldType) :
    PropertyInfo where
  name := property.name.content
  type := property.type.declared
  getter? := if property.isReadable then some (property.getter methods receiver) else none
  setter? := if property.isWritable then some (property.setter methods receiver) else none

end DeclaredProperty

namespace DeclaredBean

/-- The aliases of the properties, each with the name of its property. -/
def aliases (declared : DeclaredBean FieldType) : List (String × String) :=
  declared.properties.flatMap fun property =>
    property.aliases.map fun other => (other.content, property.name.content)

/-- The property table of the declared type. -/
def typeMeta (declared : DeclaredBean FieldType) (type : TypeRef) (methods : BeanMethods)
    (make : Constructor) : TypeMeta :=
  let empty : TypeMeta :=
    { type := type, constructor? := if declared.attributes.hasDefault then some make else none }
  let filled := (declared.properties.map (·.info methods type)).foldl TypeMeta.insertProperty empty
  declared.aliases.foldl (fun table (other, name) => table.insertAlias other name) filled

/-- The bean types that the properties lead to, in order. -/
def dependencies (declared : DeclaredBean FieldType) : List TypeRef :=
  declared.properties.flatMap (·.type.beanTypes)

end DeclaredBean

end PropertyGraph
