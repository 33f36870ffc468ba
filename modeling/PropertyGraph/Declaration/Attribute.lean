import PropertyGraph.Declaration.Error
import PropertyGraph.Declaration.Literal

/-!
# Attributes of declarations

What the attributes of a type, a field or a variant ask for. Only attributes called `bean` count;
the items of all of them make up one row, which is read from the left up to the first fault.
-/
namespace PropertyGraph

/-- An item inside an attribute. -/
inductive AttributeItem where
  /-- A path alone. -/
  | word (path : Code)
  /-- A path with a value. -/
  | pair (path value : Code)
  /-- A path with something between brackets. -/
  | group (path : Code)
deriving DecidableEq, Repr

/-- An attribute of a type, a field or a variant. -/
structure Attribute where
  /-- The name of the attribute. -/
  name : String
  /-- The items inside it. -/
  items : List AttributeItem
deriving DecidableEq, Repr

namespace AttributeItem

/-- The item of a single word. -/
def flag (word : String) : AttributeItem :=
  .word (Code.source word)

/-- The item of a key with a string. -/
def string (key content : String) : AttributeItem :=
  .pair (Code.source key) [(StringLiteral.ofContent content).token]

/-- The path of the item. -/
def path : AttributeItem → Code
  | word path | pair path _ | group path => path

/-- The path of the item, if it is one word; empty otherwise. -/
def key (item : AttributeItem) : String :=
  item.path.word?.getD ""

end AttributeItem

namespace Attribute

/-- The items of the attributes that count. -/
def beanItems (attributes : List Attribute) : List AttributeItem :=
  (attributes.filter (·.name == "bean")).flatMap (·.items)

/-- The string literal that is the value of an item. -/
def string (value : Code) : Except DeclarationError StringLiteral :=
  match StringLiteral.ofCode? value with
  | some literal => .ok literal
  | none => .error .noString

/-- The method that the value of an item names. -/
def method (value : Code) : Except DeclarationError String :=
  (string value).bind fun literal =>
    match (Token.scan? literal.content).bind Code.name? with
    | some name => .ok name
    | none => .error .noMethodName

/-- Raises a flag that may be raised once. -/
def raise (flag : Bool) (name : String) : Except DeclarationError Bool :=
  if flag then .error (.repeated name) else .ok true

end Attribute

/-! ## Types -/

/-- What the attributes of a type ask for. -/
structure TypeAttributes where
  /-- New beans can be made. -/
  hasDefault : Bool := false
  /-- The type registers itself. -/
  registersItself : Bool := false
deriving DecidableEq, Repr

namespace TypeAttributes

/-- Adds what an item asks for. -/
def add (attributes : TypeAttributes) (item : AttributeItem) :
    Except DeclarationError TypeAttributes :=
  match item, item.key with
  | .word _, "default" =>
    (Attribute.raise attributes.hasDefault "default").map fun flag =>
      { attributes with hasDefault := flag }
  | .word _, "auto_register" =>
    (Attribute.raise attributes.registersItself "auto_register").map fun flag =>
      { attributes with registersItself := flag }
  | _, _ => .error .unknownTypeAttribute

/-- Reads the attributes of a type. -/
def read (attributes : List Attribute) : Except DeclarationError TypeAttributes :=
  (Attribute.beanItems attributes).foldlM add {}

end TypeAttributes

/-! ## Fields -/

/-- What the attributes of a field ask for. -/
structure FieldAttributes where
  /-- The name of the property in place of that of the field. -/
  rename? : Option StringLiteral := none
  /-- Further names of the property. -/
  aliases : List StringLiteral := []
  /-- The field is no property. -/
  isSkipped : Bool := false
  /-- The property cannot be written. -/
  isReadOnly : Bool := false
  /-- The property cannot be read. -/
  isWriteOnly : Bool := false
  /-- The method that reads the property in place of the field itself. -/
  getter? : Option String := none
  /-- The method that writes the property in place of the field itself. -/
  setter? : Option String := none
deriving DecidableEq, Repr

namespace FieldAttributes

/-- Adds what an item asks for. -/
def add (attributes : FieldAttributes) (item : AttributeItem) :
    Except DeclarationError FieldAttributes :=
  match item, item.key with
  | .word _, "skip" =>
    (Attribute.raise attributes.isSkipped "skip").map fun flag =>
      { attributes with isSkipped := flag }
  | .word _, "read_only" =>
    (Attribute.raise attributes.isReadOnly "read_only").map fun flag =>
      { attributes with isReadOnly := flag }
  | .word _, "write_only" =>
    (Attribute.raise attributes.isWriteOnly "write_only").map fun flag =>
      { attributes with isWriteOnly := flag }
  | .pair _ value, "rename" =>
    if attributes.rename?.isSome then .error (.repeated "rename")
    else (Attribute.string value).map fun name => { attributes with rename? := some name }
  | .pair _ value, "alias" =>
    (Attribute.string value).map fun name =>
      { attributes with aliases := attributes.aliases ++ [name] }
  | .pair _ value, "getter" =>
    (Attribute.method value).map fun name => { attributes with getter? := some name }
  | .pair _ value, "setter" =>
    (Attribute.method value).map fun name => { attributes with setter? := some name }
  | _, _ => .error .unknownFieldAttribute

/-- Refuses attributes that contradict each other. -/
def check (attributes : FieldAttributes) : Except DeclarationError FieldAttributes :=
  if attributes.isReadOnly && attributes.isWriteOnly then .error .readOnlyAndWriteOnly
  else if attributes.isReadOnly && attributes.setter?.isSome then .error .readOnlySetter
  else if attributes.isWriteOnly && attributes.getter?.isSome then .error .writeOnlyGetter
  else .ok attributes

/-- Reads the attributes of a field. -/
def read (attributes : List Attribute) : Except DeclarationError FieldAttributes :=
  ((Attribute.beanItems attributes).foldlM add {}).bind check

end FieldAttributes

/-! ## Variants -/

namespace VariantAttributes

/-- Replaces the name that the items so far ask for. -/
def add (_ : Option StringLiteral) (item : AttributeItem) :
    Except DeclarationError (Option StringLiteral) :=
  match item, item.key with
  | .pair _ value, "rename" => (Attribute.string value).map some
  | _, _ => .error .unknownVariantAttribute

/-- Reads the attributes of a variant, giving the name in place of its own. -/
def read (attributes : List Attribute) : Except DeclarationError (Option StringLiteral) :=
  (Attribute.beanItems attributes).foldlM add none

end VariantAttributes

end PropertyGraph
