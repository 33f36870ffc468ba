import PropertyGraph.Declaration.Table

/-!
# Types of the sample graph

The enums of the sample graph and the declarations of its bean types. They live in one module, the
home, whose path every function here takes. A declaration is written as a program would write it,
with attributes on types, fields and variants.
-/
namespace PropertyGraph.Sample

/-- A type of a module. -/
def typeIn (home ident : String) : TypeRef :=
  { path := home ++ "::" ++ ident }

/-! ## Enums -/

/-- A declaration of an enum of the sample graph. -/
def enumDeclaration (ident : String) (variants : List VariantDeclaration) :
    Declaration FieldType where
  ident := ident
  body := .enum variants

/-- The colours, one of which has a name of its own. -/
def color : Declaration FieldType :=
  enumDeclaration "Color" [
    { ident := "Red" },
    { ident := "Green", attributes := [⟨"bean", [.string "rename" "GREEN"]⟩] },
    { ident := "Blue" },
    { ident := "Łódź" }]

/-- The sizes. -/
def size : Declaration FieldType :=
  enumDeclaration "Size" [{ ident := "Small" }, { ident := "Large" }, { ident := "Red" }]

/-- An enum without variants. -/
def nothing : Declaration FieldType :=
  enumDeclaration "Empty" []

/-- The enums. -/
def enums : List (Declaration FieldType) :=
  [color, size, nothing]

/-- A declared enum as a type of fields. -/
def enumInfo (home : String) (declaration : Declaration FieldType) : EnumInfo :=
  match declaration.enum with
  | .ok declared => declared.info (typeIn home declared.ident)
  | .error _ => ⟨typeIn home declaration.ident, []⟩

/-! ## Fields -/

/-- A field with the items of its attribute. -/
def field (ident : String) (type : FieldType) (items : List AttributeItem := []) :
    FieldDeclaration FieldType where
  ident := ident
  type := type
  attributes := if items.isEmpty then [] else [⟨"bean", items⟩]

/-- A struct with the words of its attribute. -/
def struct (ident : String) (words : List String) (fields : List (FieldDeclaration FieldType)) :
    Declaration FieldType where
  ident := ident
  attributes := if words.isEmpty then [] else [⟨"bean", words.map .flag⟩]
  body := .struct fields

/-- The integers of thirty-two bits. -/
def i32 : FieldType := .int .i32

/-- Gives a property a further name. -/
def named (name : String) : AttributeItem :=
  .string "alias" name

/-- Makes a property read only. -/
def readOnly : AttributeItem :=
  .flag "read_only"

/-- Makes a property write only. -/
def writeOnly : AttributeItem :=
  .flag "write_only"

/-- Reads a property by a method. -/
def getter (method : String) : AttributeItem :=
  .string "getter" method

/-- Writes a property by a method. -/
def setter (method : String) : AttributeItem :=
  .string "setter" method

section

variable (home : String)

/-- A field type of beans of the home. -/
def shared (ident : String) : FieldType :=
  .bean (typeIn home ident)

/-! ## Persons and pets -/

/-- A person with friends and pets. -/
def person : Declaration FieldType :=
  struct "Person" ["default", "auto_register"] [
    field "name" .text [named "title", named "fullName"],
    field "age" i32,
    field "touchy" .text [setter "set_touchy"],
    field "spouse" (.option (shared home "Person")),
    field "friends" (.list (shared home "Person")),
    field "nicknames" (.list .text),
    field "ratings" (.map i32),
    field "color" (.enum (enumInfo home color)),
    field "favourite" (.option (.enum (enumInfo home color))),
    field "pets" (.map (shared home "Pet")),
    field "address" (.option (shared home "Address")),
    field "hidden" i32 [.flag "skip"],
    field "r#type" .text]

/-- A pet and its owner. -/
def pet : Declaration FieldType :=
  struct "Pet" ["default"] [
    field "name" .text,
    field "age" (.int .u8),
    field "owner" (.option (shared home "Person")),
    field "tags" (.option (.list .text))]

/-- A place where a person lives. -/
def address : Declaration FieldType :=
  struct "Address" ["default"] [
    field "street_name" .text [.string "rename" "streetName", named "street"],
    field "zip_code" (.option .text) [.string "rename" "zipCode", named "zip", named "postcode"],
    field "country" .text [readOnly],
    field "geo" (.option (shared home "Geo"))]

/-- A point on the globe. -/
def geo : Declaration FieldType :=
  struct "Geo" ["default"] [field "lat" .double, field "lon" .single]

/-! ## Scalars and containers -/

/-- Every scalar, and lists of some. -/
def numbers : Declaration FieldType :=
  struct "Numbers" ["default"] [
    field "a" (.int .i8), field "b" (.int .i16), field "c" (.int .i32), field "d" (.int .i64),
    field "e" (.int .isize), field "f" (.int .u8), field "g" (.int .u16), field "h" (.int .u32),
    field "i" (.int .u64), field "j" (.int .usize), field "small" .single, field "big" .double,
    field "flag" .bool, field "letter" .char, field "text" .text,
    field "counts" (.list (.int .u64)), field "bytes" (.list (.int .u8)),
    field "floats" (.list .single), field "doubles" (.list .double), field "chars" (.list .char),
    field "flags" (.list .bool), field "colors" (.list (.enum (enumInfo home color))),
    field "opt" (.option (.int .u8))]

/-- Containers inside containers. -/
def boxes : Declaration FieldType :=
  struct "Boxes" ["default"] [
    field "matrix" (.list (.list i32)),
    field "opts" (.list (.option i32)),
    field "optList" (.option (.list (.option .text))),
    field "mapMap" (.map (.map i32)),
    field "mapList" (.map (.list i32)),
    field "listMap" (.list (.map i32)),
    field "any" .value,
    field "anys" (.list .value),
    field "anyMap" (.map .value),
    field "object" .anyBean,
    field "optObject" (.option .anyBean),
    field "optOpt" (.option (.option i32)),
    field "colorMap" (.map (.enum (enumInfo home color))),
    field "optMap" (.option (.map (.option (shared home "Named")))),
    field "optColor" (.option (.enum (enumInfo home color)))]

/-- A name alone. -/
def nameOnly : Declaration FieldType :=
  struct "Named" ["default"] [field "name" .text]

/-- Properties that can be read or written only. -/
def holder : Declaration FieldType :=
  struct "Holder" ["default"] [
    field "object" (.option (shared home "Named")),
    field "items" (.list (.option (shared home "Named"))),
    field "members" (.list (shared home "Named")),
    field "plain" (shared home "Named"),
    field "fixed" (.option (shared home "Named")) [readOnly],
    field "fixedBean" (shared home "Named") [readOnly],
    field "fixedList" (.list i32) [readOnly, named "fixedlist"],
    field "fixedMap" (.map i32) [readOnly],
    field "secret" (.option (shared home "Named")) [writeOnly],
    field "secretList" (.list i32) [writeOnly],
    field "count" (.option (.int .u8))]

/-! ## Rules of their own -/

/-- Counts how often it is read and written, and rejects some of it. -/
def guarded : Declaration FieldType :=
  struct "Guarded" ["default"] [
    field "name" (.option .text) [getter "read_name"],
    field "level" (.int .u8) [setter "write_level"],
    field "list" (.list i32) [getter "read_list", setter "write_list"],
    field "reads" (.int .u32) [readOnly],
    field "writes" (.int .u32) [readOnly]]

/-- A type without a constructor. -/
def unconstructible : Declaration FieldType :=
  struct "Unconstructible" [] [field "label" .text]

/-- Places for beans that cannot be made from nothing. -/
def outer : Declaration FieldType :=
  struct "Outer" ["default"] [
    field "inner" (.option (shared home "Unconstructible")),
    field "many" (.list (shared home "Unconstructible")),
    field "table" (.map (shared home "Unconstructible"))]

/-- Names that are close to each other. -/
def intelli : Declaration FieldType :=
  struct "Intelli" ["default"] [
    field "myString" .text, field "myStriNg" .text, field "myStringss" .text [named "MYSTRING"],
    field "name" .text, field "nam" .text [readOnly, named "nome"], field "größe" i32]

/-- Names that metadata has too. -/
def loader : Declaration FieldType :=
  struct "Loader" ["default"] [
    field "classLoader" .text, field "class" (.option (shared home "Named")),
    field "module" .text]

/-- A type with a parameter, at a type for it. -/
def gen (content : FieldType) : Declaration FieldType :=
  { struct "Gen" ["default"] [field "value" content, field "list" (.list content)] with
    generics := .read (Code.source "<T>") }

/-- A type without properties. -/
def unitStruct : Declaration FieldType :=
  { struct "Unit" ["auto_register"] [] with body := .unit }

end

end PropertyGraph.Sample
