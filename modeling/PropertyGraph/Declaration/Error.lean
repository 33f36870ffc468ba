/-!
# Refused declarations

Why a declaration gives rise to no bean type or no property enum.
-/
namespace PropertyGraph

/-- Why a declaration is refused. -/
inductive DeclarationError where
  /-- An attribute of the type is none of the known ones. -/
  | unknownTypeAttribute
  /-- An attribute of a field is none of the known ones. -/
  | unknownFieldAttribute
  /-- An attribute of a variant is none of the known ones. -/
  | unknownVariantAttribute
  /-- An attribute that may be given once is given again. -/
  | repeated (key : String)
  /-- An attribute has a value that is no string literal. -/
  | noString
  /-- A string that should name a method is no name. -/
  | noMethodName
  /-- A field is both read only and write only. -/
  | readOnlyAndWriteOnly
  /-- A field that is read only has a setter. -/
  | readOnlySetter
  /-- A field that is write only has a getter. -/
  | writeOnlyGetter
  /-- Two names or aliases of properties are the same. -/
  | repeatedName (name : String)
  /-- The fields of the struct have no names. -/
  | unnamedFields
  /-- The type is no struct. -/
  | noStruct
  /-- The type is no enum. -/
  | noEnum
  /-- The enum has parameters. -/
  | genericEnum
  /-- A variant has fields. -/
  | variantFields
deriving DecidableEq, Repr

namespace DeclarationError

/-- The text of the error. -/
def message : DeclarationError → String
  | unknownTypeAttribute => "Unknown type attribute, expected `default` or `auto_register`"
  | unknownFieldAttribute =>
    "Unknown field attribute, expected one of `rename`, `alias`, `skip`, `read_only`, " ++
      "`write_only`, `getter` or `setter`"
  | unknownVariantAttribute => "Unknown variant attribute, expected `rename`"
  | repeated key => "Duplicate `" ++ key ++ "`"
  | noString => "Expected a string literal"
  | noMethodName => "Expected a method name"
  | readOnlyAndWriteOnly => "`read_only` and `write_only` cannot be combined"
  | readOnlySetter => "`read_only` field with a `setter`"
  | writeOnlyGetter => "`write_only` field with a `getter`"
  | repeatedName name => "Duplicate property name `" ++ name ++ "`"
  | unnamedFields => "`Bean` properties need named fields"
  | noStruct => "`Bean` can only be derived for structs"
  | noEnum => "`PropertyEnum` can only be derived for enums"
  | genericEnum => "`PropertyEnum` does not support generic enums"
  | variantFields => "`PropertyEnum` variants cannot have fields"

end DeclarationError

end PropertyGraph
