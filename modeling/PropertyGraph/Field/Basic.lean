import PropertyGraph.Field.Error
import PropertyGraph.Number.Rounding

/-!
# Typed fields

The types in which a bean stores its fields, and what a field of a type holds (`Carrier`). A field
shows what it holds as a value (`toValue`) and takes a value if it fits (`ofValue`). A field of the
single width shows its number at the double width; an optional field takes a bare value as its
content. A list or map is refused for its first element that is refused.
-/
namespace PropertyGraph

/-- The type of a field. -/
inductive FieldType where
  | bool
  | char
  | text
  | int (width : IntWidth)
  /-- A float of thirty-two bits. -/
  | single
  /-- A float of sixty-four bits. -/
  | double
  /-- Any value. -/
  | value
  /-- A bean of any type. -/
  | anyBean
  /-- A bean of one type. -/
  | bean (type : TypeRef)
  | enum (info : EnumInfo)
  | option (content : FieldType)
  | list (element : FieldType)
  | map (element : FieldType)
deriving DecidableEq, Repr

namespace FieldType

/-- What a field of the type holds. A variant of an enum is held by its place. -/
@[reducible]
def Carrier : FieldType → Type
  | bool => Bool
  | char => Char
  | text => String
  | int width => { number : Int // width.contains number = true }
  | single => Single
  | double => Double
  | value => Value
  | anyBean => BeanRef
  | bean type => { ref : BeanRef // ref.type = type }
  | enum info => Fin info.variants.length
  | option content => Option content.Carrier
  | list element => List element.Carrier
  | map element => List (String × element.Carrier)

/-- The declared type of properties that hold such a field. -/
def declared : FieldType → DeclaredType
  | bool => .bool
  | char => .char
  | text => .text
  | int width => .int width
  | single | double => .float
  | value | anyBean => .any
  | bean type => .bean type
  | enum info => .enum info
  | option content => .optional content.declared
  | list element => .list element.declared
  | map element => .map element.declared

/-- The path of the type of fields. -/
def path : FieldType → String
  | bool => "bool"
  | char => "char"
  | text => "alloc::string::String"
  | int width => width.name
  | single => "f32"
  | double => "f64"
  | value => "vc_property::value::Value"
  | anyBean => "vc_property::bean::bean_ref::BeanRef"
  | bean type => "alloc::rc::Rc<core::cell::RefCell<" ++ type.path ++ ">>"
  | enum info => info.type.path
  | option content => "core::option::Option<" ++ content.path ++ ">"
  | list element => "alloc::vec::Vec<" ++ element.path ++ ">"
  | map element =>
    "alloc::collections::btree::map::BTreeMap<alloc::string::String, " ++ element.path ++ ">"

/-- The bean types that a field of the type leads to. -/
def beanTypes : FieldType → List TypeRef
  | bean type => [type]
  | option content | list content | map content => content.beanTypes
  | _ => []

/-- The value that a field shows. -/
def toValue : (type : FieldType) → type.Carrier → Value
  | bool, flag => .bool flag
  | char, character => .char character
  | text, content => .text content
  | int _, number => .int number.val
  | single, number =>
    let number : Single := number
    .float number.convert
  | double, number => .float number
  | value, content => content
  | anyBean, ref => .bean ref
  | bean _, ref => .bean ref.val
  | enum info, place => .enum info.type (info.variants.get place)
  | option _, none => .optNone
  | option content, some held => .optSome (content.toValue held)
  | list element, items => .list (items.map element.toValue)
  | map element, entries => .map (entries.map fun (key, item) => (key, element.toValue item))

/-! ## Taking values -/

/-- The content of a flag. -/
def ofFlag : Value → Except ValueError Bool
  | .bool flag => .ok flag
  | other => .error (.mismatch .bool other.kind)

/-- The content of a character. -/
def ofChar : Value → Except ValueError Char
  | .char character => .ok character
  | other => .error (.mismatch .char other.kind)

/-- The content of a text. -/
def ofText : Value → Except ValueError String
  | .text content => .ok content
  | other => .error (.mismatch .text other.kind)

/-- The content of an integer that fits the width. -/
def ofInt (width : IntWidth) :
    Value → Except ValueError { number : Int // width.contains number = true }
  | .int number =>
    if fits : width.contains number = true then .ok ⟨number, fits⟩
    else .error (.outOfRange number width)
  | other => .error (.mismatch (.int width) other.kind)

/-- Narrows a float, unless that makes a finite one infinite. -/
def narrow (number : Double) : Except ValueError Single :=
  let narrowed : Single := number.convert
  if narrowed.isInfinite && number.isFinite then .error (.floatOutOfRange number)
  else .ok narrowed

/-- The content of a float. -/
def ofFloat : Value → Except ValueError Double
  | .float number => .ok number
  | other => .error (.mismatch .float other.kind)

/-- The content of a bean of any type. -/
def ofAnyBean : Value → Except ValueError BeanRef
  | .bean ref => .ok ref
  | other => .error (.mismatch .any other.kind)

/-- The content of a bean of the type. -/
def ofBean (type : TypeRef) : Value → Except ValueError { ref : BeanRef // ref.type = type }
  | .bean ref =>
    if same : ref.type = type then .ok ⟨ref, same⟩ else .error (.beanType type ref.type)
  | other => .error (.mismatch (.bean type) other.kind)

/-- The place of a variant of the enum. Of variants that share a name it is the first. -/
def ofEnum (info : EnumInfo) : Value → Except ValueError (Fin info.variants.length)
  | .enum type variant =>
    if type = info.type then
      match info.variants.finIdxOf? variant with
      | some place => .ok place
      | none => .error (.unknownVariant variant info.type)
    else .error (.mismatch (.enum info) .enum)
  | other => .error (.mismatch (.enum info) other.kind)

/-- The content of an optional, given how its inside is taken. -/
def ofOption {α : Type} (take : Value → Except ValueError α) : Value → Except ValueError (Option α)
  | .null | .optNone => .ok none
  | .optSome inner => (take inner).map some
  | bare => (take bare).map some

/-- The contents of a list, given how an element is taken. -/
def ofList {α : Type} (element : DeclaredType) (take : Value → Except ValueError α) :
    Value → Except ValueError (List α)
  | .list items => items.mapM take
  | other => .error (.mismatch (.list element) other.kind)

/-- The entries of a map, given how an element is taken. -/
def ofMap {α : Type} (element : DeclaredType) (take : Value → Except ValueError α) :
    Value → Except ValueError (List (String × α))
  | .map entries => entries.mapM fun (key, item) => (take item).map fun held => (key, held)
  | other => .error (.mismatch (.map element) other.kind)

/-- What a field holds after taking a value. -/
def ofValue : (type : FieldType) → Value → Except ValueError type.Carrier
  | bool => ofFlag
  | char => ofChar
  | text => ofText
  | int width => ofInt width
  | single => fun value => (ofFloat value).bind narrow
  | double => ofFloat
  | value => fun value => .ok value
  | anyBean => ofAnyBean
  | bean type => ofBean type
  | enum info => ofEnum info
  | option content => ofOption content.ofValue
  | list element => ofList element.declared element.ofValue
  | map element => ofMap element.declared element.ofValue

/-- What a new field holds: zero, nothing or the first variant. A field of one bean and a field of
an enum without variants have no such content. -/
def initial? : (type : FieldType) → Option type.Carrier
  | bool => some false
  | char => some '\x00'
  | text => some ""
  | int width => some ⟨0, width.contains_zero⟩
  | single => some Binary.zero
  | double => some Binary.zero
  | value => some .null
  | anyBean => none
  | bean _ => none
  | enum info => if first : 0 < info.variants.length then some ⟨0, first⟩ else none
  | option _ => some none
  | list _ => some []
  | map _ => some []

end FieldType

/-- A field with what it holds. -/
structure Field where
  /-- The type of the field. -/
  type : FieldType
  /-- What the field holds. -/
  content : type.Carrier

namespace Field

/-- The value that the field shows. -/
def toValue (field : Field) : Value :=
  field.type.toValue field.content

end Field

end PropertyGraph
