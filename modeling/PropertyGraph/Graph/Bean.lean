import PropertyGraph.Field.Basic
import PropertyGraph.Name.Table

/-!
# Beans and invocations

A bean is an object of a type with named fields. Its properties are reached through invocations: a
getter turns the bean into a value, a setter takes a value, and either may refuse. What an
invocation does to the bean it does whether it succeeds or not. A capability is made for beans of
one type and refuses every other.

A capability sees the one bean that it is invoked on. It does not follow the references that the
bean holds, so that it reads and changes no other bean; capabilities that do so are not covered.
-/
namespace PropertyGraph

/-- An object with named fields. -/
structure Bean where
  /-- The type of the bean. -/
  type : TypeRef
  /-- The fields by name, each name once. -/
  fields : NameTable Field

namespace Bean

/-- The field of a name. -/
def field? (bean : Bean) (name : String) : Option Field :=
  bean.fields.lookup name

/-- The bean with another content of the field of a name. -/
def withField (bean : Bean) (name : String) (field : Field) : Bean :=
  { bean with fields := bean.fields.put name field }

/-- The value that the field of a name shows; `null` if there is none. -/
def fieldValue (bean : Bean) (name : String) : Value :=
  ((bean.field? name).map Field.toValue).getD .null

end Bean

/-- Why a getter or setter refuses. -/
inductive InvocationError where
  /-- A rule of the bean rejects the call. -/
  | rejected (reason : String)
  /-- The value does not fit the field. -/
  | value (cause : ValueError)
  /-- The bean of that type path is held by a guard. -/
  | borrowed (path : String)
  /-- The capability is for beans of another type. -/
  | wrongReceiver (expected : TypeRef)
  /-- The property cannot be read. -/
  | missingGetter
  /-- The property cannot be written. -/
  | missingSetter
deriving DecidableEq

namespace InvocationError

/-- The text of the error. -/
def message : InvocationError → String
  | rejected reason => reason
  | value cause => cause.message
  | borrowed path => "bean `" ++ path ++ "` is already borrowed"
  | wrongReceiver expected => "capability expects a bean of type `" ++ expected.path ++ "`"
  | missingGetter => "property has no getter"
  | missingSetter => "property has no setter"

end InvocationError

/-- The result of an invocation together with the bean behind it. -/
abbrev Invocation (α : Type) := Except InvocationError α × Bean

/-- The capability to read a property. It sees its bean alone. -/
structure Getter where
  /-- The type of the beans it is made for. -/
  receiver : TypeRef
  /-- Reads the property. -/
  run : Bean → Invocation Value

/-- The capability to write a property. It sees and changes its bean alone. -/
structure Setter where
  /-- The type of the beans it is made for. -/
  receiver : TypeRef
  /-- Writes the property. -/
  run : Bean → Value → Invocation Unit

namespace Getter

/-- Reads the property of a bean, unless it is of another type. -/
def invoke (getter : Getter) (bean : Bean) : Invocation Value :=
  if bean.type = getter.receiver then getter.run bean
  else (.error (.wrongReceiver getter.receiver), bean)

/-- Shows what a field holds. -/
def ofField (receiver : TypeRef) (field : String) : Getter :=
  ⟨receiver, fun bean => (.ok (bean.fieldValue field), bean)⟩

/-- Shows the same value of every bean. -/
def constant (receiver : TypeRef) (value : Value) : Getter :=
  ⟨receiver, fun bean => (.ok value, bean)⟩

/-- Refuses every call with a reason. -/
def failing (receiver : TypeRef) (reason : String) : Getter :=
  ⟨receiver, fun bean => (.error (.rejected reason), bean)⟩

end Getter

namespace Setter

/-- Writes the property of a bean, unless it is of another type. -/
def invoke (setter : Setter) (bean : Bean) (value : Value) : Invocation Unit :=
  if bean.type = setter.receiver then setter.run bean value
  else (.error (.wrongReceiver setter.receiver), bean)

/-- Puts the value that a field of the type takes into a field. The bean stays as it is if the
value does not fit. -/
def ofField (receiver : TypeRef) (field : String) (type : FieldType) : Setter :=
  ⟨receiver, fun bean value =>
    match type.ofValue value with
    | .ok content => (.ok (), bean.withField field ⟨type, content⟩)
    | .error cause => (.error (.value cause), bean)⟩

/-- Puts the value that a field of the type shows after taking it into a field of any value. -/
def ofFieldThrough (receiver : TypeRef) (field : String) (type : FieldType) : Setter :=
  ⟨receiver, fun bean value =>
    match type.ofValue value with
    | .ok content => (.ok (), bean.withField field ⟨.value, type.toValue content⟩)
    | .error cause => (.error (.value cause), bean)⟩

/-- Refuses every call with a reason. -/
def failing (receiver : TypeRef) (reason : String) : Setter :=
  ⟨receiver, fun bean _ => (.error (.rejected reason), bean)⟩

end Setter

/-- A property of a bean type: its name, its declared type and the capabilities to read and write
it. -/
structure PropertyInfo where
  /-- The name of the property. -/
  name : String
  /-- The declared type. -/
  type : DeclaredType
  /-- The capability to read it. -/
  getter? : Option Getter := none
  /-- The capability to write it. -/
  setter? : Option Setter := none

namespace PropertyInfo

/-- The property can be read. -/
def isReadable (info : PropertyInfo) : Bool :=
  info.getter?.isSome

/-- The property can be written. -/
def isWritable (info : PropertyInfo) : Bool :=
  info.setter?.isSome

/-- Reads the property of a bean. -/
def read (info : PropertyInfo) (bean : Bean) : Invocation Value :=
  match info.getter? with
  | some getter => getter.invoke bean
  | none => (.error .missingGetter, bean)

/-- Writes the property of a bean. -/
def write (info : PropertyInfo) (bean : Bean) (value : Value) : Invocation Unit :=
  match info.setter? with
  | some setter => setter.invoke bean value
  | none => (.error .missingSetter, bean)

/-- The property in outline. -/
def outline (info : PropertyInfo) : String :=
  "PropertyInfo \x7b name: " ++ Text.quoted info.name ++ ", value_type: " ++ info.type.outline ++
    ", readable: " ++ toString info.isReadable ++ ", writable: " ++ toString info.isWritable ++
    " \x7d"

end PropertyInfo

end PropertyGraph
