import PropertyGraph.Declaration.Attribute
import PropertyGraph.Declaration.Generics
import PropertyGraph.Value.DeclaredType

/-!
# Declarations

A declaration of a type with attributes, and what it declares: the properties of a bean type
(`Declaration.bean`), or the variants of a property enum (`Declaration.enum`). The types of fields
may be given in any way. No two names or aliases of the properties of a bean type are the same;
the names of variants may be.
-/
namespace PropertyGraph

/-- A field of a struct. -/
structure FieldDeclaration (τ : Type) where
  /-- The identifier of the field. -/
  ident : String
  /-- The type of the field. -/
  type : τ
  /-- The attributes of the field. -/
  attributes : List Attribute := []

/-- A variant of an enum. -/
structure VariantDeclaration where
  /-- The identifier of the variant. -/
  ident : String
  /-- What stands behind the identifier. -/
  shape : Code := []
  /-- The attributes of the variant. -/
  attributes : List Attribute := []

namespace VariantDeclaration

/-- The variant has no fields; it may have a number. -/
def isPlain (variant : VariantDeclaration) : Bool :=
  match variant.shape with
  | [] => true
  | token :: _ => token.isMark '='

end VariantDeclaration

/-- What a type consists of. -/
inductive TypeBody (τ : Type) where
  /-- A struct with named fields. -/
  | struct (fields : List (FieldDeclaration τ))
  /-- A struct without fields. -/
  | unit
  /-- A struct whose fields have no names. -/
  | tuple
  /-- An enum. -/
  | enum (variants : List VariantDeclaration)
  /-- A union. -/
  | union

/-- A declaration of a type. -/
structure Declaration (τ : Type) where
  /-- The identifier of the type. -/
  ident : String
  /-- The parameters of the type. -/
  generics : Generics := {}
  /-- The attributes of the type. -/
  attributes : List Attribute := []
  /-- What the type consists of. -/
  body : TypeBody τ

/-! ## Bean types -/

/-- A property that a declaration gives rise to. -/
structure DeclaredProperty (τ : Type) where
  /-- The identifier of the field. -/
  ident : String
  /-- The type of the field. -/
  type : τ
  /-- The name of the property. -/
  name : StringLiteral
  /-- What the attributes of the field ask for. -/
  attributes : FieldAttributes

/-- A bean type that a declaration gives rise to. -/
structure DeclaredBean (τ : Type) where
  /-- The identifier of the type. -/
  ident : String
  /-- The parameters of the type. -/
  generics : Generics
  /-- What the attributes of the type ask for. -/
  attributes : TypeAttributes
  /-- The properties in the order of their fields. -/
  properties : List (DeclaredProperty τ)

namespace DeclaredProperty

variable {τ : Type}

/-- An identifier without the mark of a raw one. -/
def plainIdent (ident : String) : String :=
  match ident.toList with
  | 'r' :: '#' :: rest => String.ofList rest
  | _ => ident

/-- The property of a field. -/
def ofField (field : FieldDeclaration τ) (attributes : FieldAttributes) : DeclaredProperty τ where
  ident := field.ident
  type := field.type
  name := attributes.rename?.getD (.ofContent (plainIdent field.ident))
  attributes := attributes

/-- The property can be read. -/
def isReadable (property : DeclaredProperty τ) : Bool :=
  !property.attributes.isWriteOnly

/-- The property can be written. -/
def isWritable (property : DeclaredProperty τ) : Bool :=
  !property.attributes.isReadOnly

/-- The aliases of the property. -/
def aliases (property : DeclaredProperty τ) : List StringLiteral :=
  property.attributes.aliases

/-- The name of the property and its aliases. -/
def names (property : DeclaredProperty τ) : List String :=
  (property.name :: property.aliases).map (·.content)

end DeclaredProperty

namespace Declaration

variable {τ : Type}

/-- The properties of fields, without the skipped ones. -/
def readProperties :
    List (FieldDeclaration τ) → Except DeclarationError (List (DeclaredProperty τ))
  | [] => .ok []
  | field :: rest =>
    (FieldAttributes.read field.attributes).bind fun attributes =>
      (readProperties rest).map fun properties =>
        if attributes.isSkipped then properties else .ofField field attributes :: properties

/-- The first name of a list that is among those before it or among the names seen already. -/
def firstRepeated? (seen : List String) : List String → Option String
  | [] => none
  | name :: rest =>
    if seen.contains name then some name else firstRepeated? (seen ++ [name]) rest

/-- Refuses properties of which two names or aliases are the same. -/
def checkNames (properties : List (DeclaredProperty τ)) :
    Except DeclarationError (List (DeclaredProperty τ)) :=
  match firstRepeated? [] (properties.flatMap (·.names)) with
  | some name => .error (.repeatedName name)
  | none => .ok properties

/-- The fields of a struct. -/
def structFields (declaration : Declaration τ) :
    Except DeclarationError (List (FieldDeclaration τ)) :=
  match declaration.body with
  | .struct fields => .ok fields
  | .unit => .ok []
  | .tuple => .error .unnamedFields
  | .enum _ | .union => .error .noStruct

/-- The bean type that a declaration gives rise to. -/
def bean (declaration : Declaration τ) : Except DeclarationError (DeclaredBean τ) := do
  let attributes ← TypeAttributes.read declaration.attributes
  let fields ← declaration.structFields
  let properties ← (readProperties fields).bind checkNames
  return ⟨declaration.ident, declaration.generics, attributes, properties⟩

end Declaration

/-! ## Property enums -/

/-- A variant that a declaration gives rise to. -/
structure DeclaredVariant where
  /-- The identifier of the variant. -/
  ident : String
  /-- The name of the variant. -/
  name : StringLiteral

/-- A property enum that a declaration gives rise to. -/
structure DeclaredEnum where
  /-- The identifier of the type. -/
  ident : String
  /-- The variants in order. -/
  variants : List DeclaredVariant

namespace DeclaredEnum

/-- The enum as a type of fields. -/
def info (declared : DeclaredEnum) (type : TypeRef) : EnumInfo :=
  ⟨type, declared.variants.map (·.name.content)⟩

end DeclaredEnum

namespace VariantDeclaration

/-- The variant with its name: its identifier, unless an attribute asks for another. -/
def read (variant : VariantDeclaration) : Except DeclarationError DeclaredVariant :=
  if variant.isPlain then
    (VariantAttributes.read variant.attributes).map fun rename? =>
      ⟨variant.ident, rename?.getD (.ofContent variant.ident)⟩
  else
    .error .variantFields

end VariantDeclaration

namespace Declaration

variable {τ : Type}

/-- The variants of an enum. -/
def enumVariants (declaration : Declaration τ) :
    Except DeclarationError (List VariantDeclaration) :=
  match declaration.body with
  | .enum variants => .ok variants
  | _ => .error .noEnum

/-- The property enum that a declaration gives rise to. -/
def enum (declaration : Declaration τ) : Except DeclarationError DeclaredEnum := do
  let variants ← declaration.enumVariants
  if declaration.generics.isGeneric then throw .genericEnum
  return ⟨declaration.ident, ← variants.mapM VariantDeclaration.read⟩

end Declaration

end PropertyGraph
