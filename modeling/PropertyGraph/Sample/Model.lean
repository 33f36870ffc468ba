import PropertyGraph.Field.Name
import PropertyGraph.Registry.Basic
import PropertyGraph.Sample.Types

/-!
# The sample graph

The bean types of the sample graph with their methods, and new beans of them. A new bean holds what
its fields hold initially; fields of one bean hold a new bean of their own. Besides the declared
types there are one whose property shows a number where it is declared to be a text, one that is
never registered, and three whose beans hold any values under any names.
-/
namespace PropertyGraph.Sample

/-! ## Methods -/

/-- The number of a field that counts. -/
def counter (bean : Bean) (field : String) : Int :=
  (bean.fieldValue field).int?.getD 0

/-- Adds one to a field that counts. -/
def count (bean : Bean) (field : String) : Bean :=
  match (FieldType.int .u32).ofValue (.int (counter bean field + 1)) with
  | .ok content => bean.withField field ⟨.int .u32, content⟩
  | .error _ => bean

/-- Puts a value into a field of a type. -/
def store (bean : Bean) (field : String) (type : FieldType) (value : Value) : Invocation Unit :=
  (Setter.ofField bean.type field type).run bean value

/-- Rejects a call. -/
def reject {α : Type} (bean : Bean) (reason : String) : Invocation α :=
  (.error (.rejected reason), bean)

/-- The methods of persons: one property takes no text with a point in it. -/
def personMethods : BeanMethods where
  write := fun _ bean value =>
    if (value.text?.getD "").toList.contains '.' then reject bean "Can't contain a ."
    else store bean "touchy" .text value

/-- The methods of the type that counts its calls. -/
def guardedMethods : BeanMethods where
  read := fun method bean =>
    let bean := count bean "reads"
    if method = "read_name" then
      let value := bean.fieldValue "name"
      if value.isAbsent then reject bean "name has not been set" else (.ok value, bean)
    else
      (.ok (bean.fieldValue "list"), bean)
  write := fun method bean value =>
    let bean := count bean "writes"
    match method, value with
    | "write_level", .int level =>
      if 100 < level then reject bean ("level " ++ toString level ++ " is above 100")
      else store bean "level" (.int .u8) value
    | _, .list items =>
      if 3 < items.length then reject bean "at most 3 entries"
      else store bean "list" (.list i32) value
    | _, _ => (.ok (), bean)

/-! ## New beans -/

/-- A field with a content for a value that fits. -/
def content? (type : FieldType) (value : Value) : Option Field :=
  (type.ofValue value).toOption.map fun content => ⟨type, content⟩

/-- The fields of a declaration with what they hold initially. A field of one bean is left out. -/
def initialFields (declaration : Declaration FieldType) : NameTable Field :=
  match declaration.body with
  | .struct fields =>
    fields.filterMap fun field =>
      field.type.initial?.map fun content => (field.ident, ⟨field.type, content⟩)
  | _ => []

/-- A new bean with what the fields of a declaration hold initially and some fields beside them. -/
def newBean (type : TypeRef) (declaration : Declaration FieldType)
    (beside : World → NameTable Field × World) : Constructor := fun world =>
  let (fields, world) := beside world
  world.add ⟨type, fields.foldl (fun table (name, field) => table.put name field)
    (initialFields declaration)⟩

/-- No fields beside the initial ones. -/
def noneBeside : World → NameTable Field × World :=
  fun world => ([], world)

section

variable (home : String)

/-- A new bean with a name alone. -/
def newNamed : Constructor :=
  newBean (typeIn home "Named") nameOnly noneBeside

/-- A field of one new bean with a name alone. -/
def namedField (type : FieldType) (name : String) (world : World) : NameTable Field × World :=
  let (ref, world) := newNamed home world
  ((content? type (.bean ref)).toList.map (name, ·), world)

/-- What boxes hold beside their initial fields. -/
def besideBoxes : World → NameTable Field × World :=
  namedField home .anyBean "object"

/-- What holders hold beside their initial fields. -/
def besideHolder : World → NameTable Field × World := fun world =>
  let (plain, world) := namedField home (shared home "Named") "plain" world
  let (fixed, world) := namedField home (shared home "Named") "fixedBean" world
  let list := content? (.list i32) (.list [.int 10, .int 20])
  let map := content? (.map i32) (.map [("k", .int 1)])
  (plain ++ fixed ++ list.toList.map ("fixedList", ·) ++ map.toList.map ("fixedMap", ·), world)

/-- What a bean without constructor holds. -/
def besideUnconstructible : World → NameTable Field × World := fun world =>
  ((content? .text (.text "u")).toList.map ("label", ·), world)

/-! ## Classes -/

/-- A bean type of the sample graph. -/
structure SampleClass where
  /-- The name of the type without its module. -/
  name : String
  /-- The type. -/
  type : TypeRef
  /-- Its table and dependencies; a type without them cannot be registered. -/
  beanClass? : Option BeanClass
  /-- Makes a new bean. -/
  make : Constructor

/-- The class of a declared type. -/
def declared (name : String) (type : TypeRef) (declaration : Declaration FieldType)
    (methods : BeanMethods := {}) (beside : World → NameTable Field × World := noneBeside) :
    SampleClass :=
  let make := newBean type declaration beside
  { name := name
    type := type
    beanClass? := declaration.bean.toOption.map fun bean =>
      ⟨bean.typeMeta type methods make, bean.dependencies⟩
    make := make }

/-- The class of a declared type of the home. -/
def classOf (declaration : Declaration FieldType) (methods : BeanMethods := {})
    (beside : World → NameTable Field × World := noneBeside) : SampleClass :=
  declared declaration.ident (typeIn home declaration.ident) declaration methods beside

/-- The class of a generic type at a type for its parameter, which is given with its name. -/
def genAt (name : String) (parameter : FieldType) : SampleClass :=
  declared ("Gen<" ++ name ++ ">") (typeIn home ("Gen<" ++ parameter.path ++ ">")) (gen parameter)

/-- Shows the number of bytes of a text where a text is declared. -/
def mismatched : SampleClass :=
  let type := typeIn home "Mismatched"
  let bytes : Getter := ⟨type, fun bean =>
    (.ok (.int ((bean.fieldValue "object").text?.getD "").utf8ByteSize), bean)⟩
  let table := TypeMeta.insertProperty { type := type }
    { name := "object", type := .text, getter? := some bytes,
      setter? := some (.ofField type "object" .text) }
  { name := type.ident
    type := type
    beanClass? := some ⟨table, []⟩
    make := newBean type (struct "Mismatched" [] [field "object" .text]) noneBeside }

/-- A type that cannot be registered and whose new beans are empty. -/
def loose (ident : String) : SampleClass :=
  let type := typeIn home ident
  ⟨ident, type, none, fun world => world.add ⟨type, []⟩⟩

/-- The class of type handles; a new one stands for persons. -/
def handles : SampleClass :=
  { name := TypeHandle.type.ident
    type := TypeHandle.type
    beanClass? := some ⟨TypeHandle.typeMeta, []⟩
    make := fun world => world.add (TypeHandle.bean (typeIn home "Person")) }

/-- The classes that can be registered, in the order in which all of them are. -/
def registrable : List SampleClass := [
  classOf home (person home) personMethods,
  classOf home (pet home),
  classOf home (address home),
  classOf home geo,
  classOf home (numbers home),
  classOf home (boxes home) {} (besideBoxes home),
  classOf home nameOnly,
  classOf home (holder home) {} (besideHolder home),
  classOf home guarded guardedMethods,
  classOf home unconstructible {} besideUnconstructible,
  classOf home (outer home),
  classOf home intelli,
  classOf home (loader home),
  genAt home "i32" i32,
  genAt home "String" .text,
  classOf home unitStruct,
  mismatched home,
  handles home]

/-- The classes that cannot be registered. -/
def unregistrable : List SampleClass :=
  genAt home "Vec<String>" (.list .text) :: ["Ghost", "DynA", "DynB", "DynC"].map (loose home)

end

/-- The sample graph. -/
structure Model where
  /-- The classes that can be registered, in order. -/
  registrable : List SampleClass
  /-- The other classes. -/
  others : List SampleClass
  /-- The enums. -/
  enums : List EnumInfo

/-- The sample graph of a home. -/
def model (home : String) : Model where
  registrable := registrable home
  others := unregistrable home
  enums := enums.map (enumInfo home)

namespace Model

/-- Every class. -/
def classes (model : Model) : List SampleClass :=
  model.registrable ++ model.others

/-- The class of a name. -/
def class? (model : Model) (name : String) : Option SampleClass :=
  model.classes.find? (·.name == name)

/-- The name of a bean type; of a type that is none of the sample it is the path. -/
def nameOf (model : Model) (type : TypeRef) : String :=
  ((model.classes.find? (·.type == type)).map (·.name)).getD type.path

/-- The enum of a name. -/
def enum? (model : Model) (name : String) : Option EnumInfo :=
  model.enums.find? (·.type.ident == name)

/-- The names of the sample types. -/
def names (model : Model) : TypeNames where
  bean? := fun name => (model.class? name).map (·.type)
  enum? := model.enum?

/-- What can be registered; the types whose declarations say so register themselves. -/
def catalogue (model : Model) : Catalogue where
  classes := Catalogue.builtin ++ model.registrable.filterMap (·.beanClass?)
  automatic := ["Unit", "Person"].filterMap fun name => (model.class? name).map (·.type)

end Model

end PropertyGraph.Sample
