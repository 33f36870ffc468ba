import PropertyGraph.Number.IntWidth
import PropertyGraph.Text.Quoted
import PropertyGraph.Value.Basic

/-!
# Declared types

The type that a property is declared with. It bounds the values that the property takes: an
integer type by its width, an enum or bean type by the type itself, a collection or an optional by
the type of what it contains. `any` bounds nothing.
-/
namespace PropertyGraph

/-- An enum type and the names of its variants in the order of their declaration. -/
structure EnumInfo where
  /-- The enum type. -/
  type : TypeRef
  /-- The names of the variants. -/
  variants : List String
deriving DecidableEq, Repr

/-- The declared type of a property. -/
inductive DeclaredType where
  /-- Takes every value as it is. -/
  | any
  | bool
  | int (width : IntWidth)
  | float
  | char
  | text
  | enum (info : EnumInfo)
  | list (element : DeclaredType)
  | map (element : DeclaredType)
  | optional (content : DeclaredType)
  | bean (type : TypeRef)
deriving DecidableEq, Repr, Inhabited

namespace DeclaredType

/-- The kind of the values of the type; `any` has none. -/
def kind? : DeclaredType → Option ValueKind
  | any => none
  | bool => some .bool
  | int _ => some .int
  | float => some .float
  | char => some .char
  | text => some .text
  | enum _ => some .enum
  | list _ => some .list
  | map _ => some .map
  | optional _ => some .optional
  | bean _ => some .bean

/-- The enum or bean type that the declared type names. -/
def named? : DeclaredType → Option TypeRef
  | enum info => some info.type
  | bean type => some type
  | _ => none

/-- The type inside all optionals. -/
def unwrapped : DeclaredType → DeclaredType
  | optional content => content.unwrapped
  | type => type

/-- The type of the elements of a list or map, inside all optionals; `any` for other types. -/
def element (type : DeclaredType) : DeclaredType :=
  match type.unwrapped with
  | list element | map element => element
  | _ => any

/-- The type is an optional. -/
def isOptional : DeclaredType → Bool
  | optional _ => true
  | _ => false

/-- Equality of declared types, in which an enum type is known by its type alone. -/
def same : DeclaredType → DeclaredType → Bool
  | enum info, enum info' => info.type == info'.type
  | list element, list element' => same element element'
  | map element, map element' => same element element'
  | optional content, optional content' => same content content'
  | type, type' => type == type'

/-- The name of the type in messages. -/
def name : DeclaredType → String
  | any => "any"
  | bool => "bool"
  | int width => width.name
  | float => "f64"
  | char => "char"
  | text => "String"
  | enum info => info.type.ident
  | list element => "Vec<" ++ element.name ++ ">"
  | map element => "Map<String, " ++ element.name ++ ">"
  | optional content => "Option<" ++ content.name ++ ">"
  | bean type => type.ident

/-- The structure of the type, constructor by constructor. -/
def outline : DeclaredType → String
  | any => "Any"
  | bool => "Bool"
  | int width => "Int(" ++ width.label ++ ")"
  | float => "Float"
  | char => "Char"
  | text => "Text"
  | enum info =>
    "Enum(EnumInfo \x7b ty: " ++ info.type.path ++ ", variants: [" ++
      ", ".intercalate (info.variants.map Text.quoted) ++ "] \x7d)"
  | list element => "List(" ++ element.outline ++ ")"
  | map element => "Map(" ++ element.outline ++ ")"
  | optional content => "Optional(" ++ content.outline ++ ")"
  | bean type => "Bean(" ++ type.path ++ ")"

end DeclaredType

end PropertyGraph
