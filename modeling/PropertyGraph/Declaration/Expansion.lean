import PropertyGraph.Declaration.Basic

/-!
# Code of a declaration

The source code that makes a declared type a bean type or a property enum: its implementations of
the traits of the property library, which the code reaches by a path that depends on the crate.
-/
namespace PropertyGraph

namespace Code

/-- The path of the names, from the root of all crates on. -/
def absolutePath (names : List String) : Code :=
  names.flatMap fun name => source "::" ++ [.word name]

/-- An implementation of a trait for a type. -/
def implementation (declared trait self : Code) (demands : Code) (body : Code) : Code :=
  .word "impl" :: declared ++ trait ++ .word "for" :: self ++ demands ++ braces body

end Code

/-! ## Bean types -/

open Code (source parens squares braces)

namespace DeclaredProperty

/-- The closure that reads the property. -/
def getterCode (home : Code) (property : DeclaredProperty Code) : Code :=
  let intoValue := home ++ source "::value::IntoValue::into_value"
  source ".with_getter" ++ parens (source "|this: &Self|" ++ braces (
    match property.attributes.getter? with
    | some method =>
      source "::core::result::Result::map" ++
        parens (source "this." ++ .word method :: source "()," ++ intoValue)
    | none =>
      source "::core::result::Result::Ok" ++ parens (intoValue ++ parens (
        source "<" ++ property.type ++ source "as ::core::clone::Clone>::clone" ++
          parens (source "&this." ++ [.word property.ident]) ++ source ","))))

/-- The closure that writes the property. -/
def setterCode (home : Code) (property : DeclaredProperty Code) : Code :=
  let fromValue := home ++ source "::value::FromValue::from_value(value)?;"
  source ".with_setter" ++ parens (
    source "|this: &mut Self, value:" ++ home ++ source "::value::Value|" ++ braces (
      match property.attributes.setter? with
      | some method =>
        source "let value:" ++ property.type ++ source "=" ++ fromValue ++
          source "this." ++ .word method :: source "(value)"
      | none =>
        source "this." ++ .word property.ident :: source "=" ++ fromValue ++
          source "::core::result::Result::Ok(())"))

/-- The call that adds the property to the table of its type. -/
def tableCode (home : Code) (property : DeclaredProperty Code) : Code :=
  source ".with_property" ++ parens (
    home ++ source "::registry::PropertyInfo::of::<" ++ property.type ++ source ">" ++
      parens [property.name.token] ++
      (if property.isReadable then property.getterCode home else []) ++
      (if property.isWritable then property.setterCode home else []))

/-- The calls that add the aliases of the property to the table of its type. -/
def aliasCode (property : DeclaredProperty Code) : Code :=
  property.aliases.flatMap fun other =>
    source ".with_alias" ++ parens [other.token, .mark ',', property.name.token]

/-- The statement that registers the types that the field leads to. -/
def dependencyCode (home : Code) (property : DeclaredProperty Code) : Code :=
  source "<" ++ property.type ++ source "as" ++ home ++
    source "::value::Typed>::register_dependencies(registry);"

end DeclaredProperty

namespace DeclaredBean

/-- The function that makes the property table of the type. -/
def tableCode (home : Code) (declared : DeclaredBean Code) : Code :=
  let typeMeta := home ++ source "::registry::TypeMeta"
  source "fn get_type_meta() ->" ++ typeMeta ++ braces (
    typeMeta ++ source "::with_capacity::<Self>" ++
      parens [.literal (toString declared.properties.length ++ "usize")] ++
      declared.properties.flatMap (·.tableCode home) ++
      declared.properties.flatMap (·.aliasCode) ++
      if declared.attributes.hasDefault then source ".with_default::<Self>()" else [])

/-- The function that registers the types that the fields lead to. There is none if there are no
properties. -/
def dependenciesCode (home : Code) (declared : DeclaredBean Code) : Code :=
  if declared.properties.isEmpty then []
  else
    source "fn register_dependencies" ++
      parens (source "registry: &mut" ++ home ++ source "::registry::TypeRegistry") ++
      braces (declared.properties.flatMap (·.dependencyCode home))

/-- The code by which the type registers itself; a generic type does not. -/
def registrationCode (home : Code) (declared : DeclaredBean Code) : Code :=
  if declared.attributes.registersItself && !declared.generics.isGeneric then
    let registration := home ++ source "::__macro_exports::auto_register"
    registration ++ source "::inventory::submit!" ++ braces (
      registration ++ source "::__AutoRegisterFunc" ++ parens (
        source "<" ++ .word declared.ident :: source "as" ++ registration ++
          source "::__RegisterType>::__register"))
  else
    []

/-- The code that makes the declared type a bean type. -/
def code (home : Code) (declared : DeclaredBean Code) : Code :=
  let implementation (trait : String) (body : Code) : Code :=
    Code.implementation declared.generics.declared (home ++ source trait)
      (.word declared.ident :: declared.generics.applied)
      (declared.generics.whereWith (source "Self: 'static")) body
  implementation "::bean::Bean" [] ++
    implementation "::registry::GetTypeMeta"
      (declared.tableCode home ++ declared.dependenciesCode home) ++
    declared.registrationCode home

end DeclaredBean

/-! ## Property enums -/

namespace DeclaredVariant

/-- The variant as a path. -/
def path (variant : DeclaredVariant) : Code :=
  source "Self::" ++ [.word variant.ident]

end DeclaredVariant

namespace DeclaredEnum

/-- The function that tells the declared type. -/
def typeCode (home : Code) (declared : DeclaredEnum) : Code :=
  let valueType := home ++ source "::value::ValueType"
  let names := declared.variants.map fun variant => [variant.name.token]
  source "fn value_type() ->" ++ valueType ++ braces (
    valueType ++ source "::Enum" ++ parens (
      home ++ source "::value::EnumInfo::of::<Self>" ++
        parens (Token.mark '&' :: squares ([.mark ','].intercalate names))))

/-- The function that turns a variant into a value. -/
def intoCode (home : Code) (declared : DeclaredEnum) : Code :=
  let value := home ++ source "::value::Value"
  let arms := declared.variants.flatMap fun variant =>
    variant.path ++ source "=>" ++ [variant.name.token, .mark ',']
  source "fn into_value(self) ->" ++ value ++ braces (
    source "let variant = match self" ++ braces arms ++ source ";" ++
      value ++ source "::Enum" ++ parens (
        home ++ source "::value::EnumValue" ++ braces (
          source "ty:" ++ home ++ source "::bean::Type::of::<Self>(), variant,")))

/-- The function that finds the variant of a value. -/
def fromCode (home : Code) (declared : DeclaredEnum) : Code :=
  let value := home ++ source "::value::Value"
  let valueError := home ++ source "::value::ValueError"
  let type := home ++ source "::bean::Type::of::<Self>()"
  let arms := declared.variants.flatMap fun variant =>
    variant.name.token :: source "=> ::core::result::Result::Ok" ++ parens variant.path ++
      source ","
  let unknown := source "other => ::core::result::Result::Err" ++ parens (
    valueError ++ source "::UnknownVariant" ++ braces (
      source "variant: ::core::convert::Into::into(other), ty:" ++ type ++ source ",")) ++
    source ","
  let mismatch := source "other => ::core::result::Result::Err" ++ parens (
    valueError ++ source "::Mismatch" ++ braces (
      source "expected: <Self as" ++ home ++
        source "::value::Typed>::value_type(), found: other.kind(),")) ++ source ","
  source "fn from_value" ++ parens (source "value:" ++ value) ++
    source "-> ::core::result::Result<Self," ++ valueError ++ source ">" ++ braces (
      source "match value" ++ braces (
        value ++ source "::Enum(value) if value.ty ==" ++ type ++ source "=>" ++
          braces (source "match value.variant" ++ braces (arms ++ unknown)) ++ mismatch))

/-- The code that makes the declared type a property enum. -/
def code (home : Code) (declared : DeclaredEnum) : Code :=
  let implementation (trait : String) (body : Code) : Code :=
    Code.implementation [] (home ++ source trait) [.word declared.ident] [] body
  implementation "::value::Typed" (declared.typeCode home) ++
    implementation "::value::IntoValue" (declared.intoCode home) ++
    implementation "::value::FromValue" (declared.fromCode home)

end DeclaredEnum

end PropertyGraph
