import PropertyGraph.Value.DeclaredType
import PropertyGraph.Value.Text

/-!
# Failed conversions

Why a raw value cannot be brought to a declared type. A conversion error names the raw value as a
whole and its target; its cause is the coercion that failed, of an element where the value is a
collection.
-/
namespace PropertyGraph

/-- Why a coercion fails. -/
inductive CoercionError where
  /-- The text denotes no number, or the float no integer. -/
  | invalidNumber (text : String)
  /-- The number does not fit the width. -/
  | outOfRange (value : String) (width : IntWidth)
  /-- The text names no truth value. -/
  | invalidBool (text : String)
  /-- The text is not a single character. -/
  | invalidChar (text : String)
  /-- The enum type has no variant of that name. -/
  | unknownVariant (variant : String) (type : TypeRef)
  /-- No coercion leads from the kind to the type. -/
  | unsupported (source : ValueKind) (target : DeclaredType)
  /-- A coercion refuses with a text of its own. -/
  | custom (text : String)
  /-- Coercions ask for each other's conversions without end. It stands for a conversion that gives
  no answer, and is told where the questions pass the bound `Converter.depth`. -/
  | endless
deriving DecidableEq

namespace CoercionError

/-- The text of the error. -/
def message : CoercionError → String
  | invalidNumber text => "`" ++ text ++ "` is not a valid number"
  | outOfRange value width => value ++ " is out of range for `" ++ width.name ++ "`"
  | invalidBool text => "`" ++ text ++ "` is not a valid boolean"
  | invalidChar text => "`" ++ text ++ "` is not a single character"
  | unknownVariant variant type => "`" ++ variant ++ "` is not a variant of `" ++ type.path ++ "`"
  | unsupported source target => "cannot convert " ++ source.name ++ " to `" ++ target.name ++ "`"
  | custom text => text
  | endless => "coercions ask for each other without end"

end CoercionError

/-- A raw value that could not be converted. -/
structure ConversionError where
  /-- The raw value. -/
  value : Value
  /-- The declared type. -/
  target : DeclaredType
  /-- The coercion that failed. -/
  cause : CoercionError

namespace ConversionError

/-- The text of the error. -/
def message (error : ConversionError) : String :=
  "cannot convert `" ++ error.value.toText ++ "` to `" ++ error.target.name ++ "`"

end ConversionError

end PropertyGraph
