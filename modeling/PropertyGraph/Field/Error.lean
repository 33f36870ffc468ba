import PropertyGraph.Number.Shortest
import PropertyGraph.Value.DeclaredType

/-!
# Values refused by a field

Why a value does not fit the type of a field, and the message that says so.
-/
namespace PropertyGraph

/-- Why a value is refused. -/
inductive ValueError where
  /-- The value is of a kind that the field does not hold. -/
  | mismatch (expected : DeclaredType) (found : ValueKind)
  /-- The integer does not fit the width of the field. -/
  | outOfRange (value : Int) (width : IntWidth)
  /-- The float is finite, but infinite at the width of the field. -/
  | floatOutOfRange (value : Double)
  /-- The bean is of another type. -/
  | beanType (expected found : TypeRef)
  /-- The enum type has no variant of that name. -/
  | unknownVariant (variant : String) (type : TypeRef)
deriving DecidableEq

namespace ValueError

/-- The text of the error. -/
def message : ValueError → String
  | mismatch expected found =>
    "expected a value of type `" ++ expected.name ++ "`, found " ++ found.name
  | outOfRange value width =>
    "integer " ++ toString value ++ " is out of range for `" ++ width.name ++ "`"
  | floatOutOfRange value => "float " ++ value.text ++ " is out of range for `f32`"
  | beanType expected found =>
    "expected a bean of type `" ++ expected.path ++ "`, found `" ++ found.path ++ "`"
  | unknownVariant variant type =>
    "`" ++ variant ++ "` is not a variant of `" ++ type.path ++ "`"

end ValueError

end PropertyGraph
