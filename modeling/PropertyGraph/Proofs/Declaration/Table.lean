import Mathlib.Data.List.Flatten
import PropertyGraph.Declaration.Table
import PropertyGraph.Proofs.Declaration.Attributes
import PropertyGraph.Proofs.Name.Table

/-!
# Property tables of accepted declarations

A declaration that is accepted as one of a bean type gets the property table that its fields ask
for: a property for each field that is not skipped, in order, found under its name and under each of
its aliases. The names and aliases of all these fields have been compared with each other before, so
filling the table replaces nothing and no alias stands for another property.
-/
namespace PropertyGraph

/-! ## What a declaration asks for -/

namespace FieldDeclaration

variable {τ : Type}

/-- The field is no property. -/
def isSkipped (field : FieldDeclaration τ) : Bool :=
  Attribute.hasWord field.attributes "skip"

/-- The name of the property: the one that is given in place of that of the field, if there is. -/
def propertyName (field : FieldDeclaration τ) : String :=
  (Attribute.given field.attributes "rename").head?.getD (DeclaredProperty.plainIdent field.ident)

/-- The name of the property and its aliases. -/
def names (field : FieldDeclaration τ) : List String :=
  field.propertyName :: Attribute.given field.attributes "alias"

end FieldDeclaration

namespace Declaration

variable {τ : Type}

/-- The fields of a struct; `none` if the declaration is of anything else, or they have no names. -/
def fields? (declaration : Declaration τ) : Option (List (FieldDeclaration τ)) :=
  match declaration.body with
  | .struct fields => some fields
  | .unit => some []
  | _ => none

/-- The fields that are to be properties, in order. -/
def exposed (declaration : Declaration τ) : List (FieldDeclaration τ) :=
  (declaration.fields?.getD []).filter (!·.isSkipped)

/-- The declaration is of a struct, and its attributes and those of its fields can be read. -/
def IsReadable (declaration : Declaration τ) : Prop :=
  (∃ asked, TypeAttributes.read declaration.attributes = .ok asked) ∧
    ∃ fields, declaration.fields? = some fields ∧
      ∀ field ∈ fields, ∃ asked, FieldAttributes.read field.attributes = .ok asked

end Declaration

/-- The property of a table is the one that the field asks for. -/
structure PropertyInfo.Exposes (info : PropertyInfo) (field : FieldDeclaration FieldType) :
    Prop where
  name : info.name = field.propertyName
  type : info.type = field.type.declared
  isReadable : info.isReadable = !Attribute.hasWord field.attributes "write_only"
  isWritable : info.isWritable = !Attribute.hasWord field.attributes "read_only"

/-- The declared property is the one that the field asks for. -/
structure DeclaredProperty.Follows {τ : Type} (property : DeclaredProperty τ)
    (field : FieldDeclaration τ) : Prop where
  type : property.type = field.type
  names : property.names = field.names
  isReadable : property.isReadable = !Attribute.hasWord field.attributes "write_only"
  isWritable : property.isWritable = !Attribute.hasWord field.attributes "read_only"

namespace Declaration

section

variable {τ : Type} {fields : List (FieldDeclaration τ)} {properties : List (DeclaredProperty τ)}

/-- The property of a field whose attributes are read is the one that it asks for. -/
theorem follows_ofField {field : FieldDeclaration τ} {asked : FieldAttributes}
    (done : FieldAttributes.read field.attributes = .ok asked) :
    (DeclaredProperty.ofField field asked).Follows field := by
  have adds := FieldAttributes.adds_of_read done
  have name : (asked.rename?.getD (.ofContent (DeclaredProperty.plainIdent field.ident))).content =
      field.propertyName := by
    have given : asked.rename?.map (·.content) =
        (Attribute.given field.attributes "rename").head? := adds.rename
    rw [FieldDeclaration.propertyName, ← given]
    cases asked.rename? <;> rfl
  have aliases : asked.aliases.map (·.content) = Attribute.given field.attributes "alias" :=
    adds.aliases
  refine ⟨rfl, ?_, congrArg (!·) adds.isWriteOnly, congrArg (!·) adds.isReadOnly⟩
  rw [DeclaredProperty.names, List.map_cons, DeclaredProperty.aliases, FieldDeclaration.names,
    ← aliases, ← name]
  rfl

/-- The fields of a declaration are those of a struct with named fields. -/
theorem structFields_eq_ok_iff {declaration : Declaration τ} :
    declaration.structFields = .ok fields ↔ declaration.fields? = some fields := by
  obtain ⟨ident, generics, attributes, body⟩ := declaration
  cases body <;> simp [structFields, fields?]

/-- Properties have the names that the fields give them. -/
theorem flatMap_names_of_follows
    (follows : List.Forall₂ (fun field property => property.Follows field) fields properties) :
    fields.flatMap (·.names) = properties.flatMap (·.names) := by
  induction follows with
  | nil => rfl
  | cons here _ ih => rw [List.flatMap_cons, List.flatMap_cons, here.names, ih]

/-- Fields can be read exactly if the attributes of each of them can. -/
theorem exists_readProperties_iff :
    (∃ properties, readProperties fields = .ok properties) ↔
      ∀ field ∈ fields, ∃ asked, FieldAttributes.read field.attributes = .ok asked := by
  induction fields with
  | nil => simp [readProperties]
  | cons field rest ih =>
    rw [List.forall_mem_cons, ← ih]
    constructor
    · rintro ⟨_, done⟩
      obtain ⟨asked, read, further⟩ := bind_eq_ok_iff.1 done
      obtain ⟨others, readOthers, -⟩ := map_eq_ok_iff.1 further
      exact ⟨⟨asked, read⟩, others, readOthers⟩
    · rintro ⟨⟨asked, read⟩, others, readOthers⟩
      exact ⟨_, bind_eq_ok_iff.2 ⟨asked, read, map_eq_ok_iff.2 ⟨others, readOthers, rfl⟩⟩⟩

/-- The properties of fields are those of the fields that are not skipped, in order. -/
theorem follows_of_readProperties (done : readProperties fields = .ok properties) :
    List.Forall₂ (fun field property => property.Follows field) (fields.filter (!·.isSkipped))
      properties := by
  induction fields generalizing properties with
  | nil =>
    cases done
    exact .nil
  | cons field rest ih =>
    obtain ⟨asked, read, further⟩ := bind_eq_ok_iff.1 done
    obtain ⟨others, readOthers, rfl⟩ := map_eq_ok_iff.1 further
    have skipped : asked.isSkipped = field.isSkipped :=
      (FieldAttributes.adds_of_read read).isSkipped
    cases isSkipped : field.isSkipped with
    | true => simpa [isSkipped, skipped] using ih readOthers
    | false => simpa [isSkipped, skipped] using ⟨follows_ofField read, ih readOthers⟩

/-- No name is repeated exactly if the names are different from each other and from those seen. -/
theorem firstRepeated?_eq_none_iff {seen names : List String} :
    firstRepeated? seen names = none ↔ names.Nodup ∧ ∀ name ∈ names, name ∉ seen := by
  induction names generalizing seen with
  | nil => simp [firstRepeated?]
  | cons name rest ih =>
    rw [firstRepeated?]
    by_cases repeated : name ∈ seen
    · simp [repeated]
    · have goesOn : firstRepeated? (seen ++ [name]) rest = none ↔
          rest.Nodup ∧ ∀ other ∈ rest, other ∉ seen ∧ other ≠ name := by
        simp [ih]
      simp only [List.contains_iff_mem, repeated, ↓reduceIte, goesOn, List.nodup_cons,
        List.forall_mem_cons, not_false_eq_true, true_and]
      constructor
      · rintro ⟨distinct, new⟩
        exact ⟨⟨fun among => (new name among).2 rfl, distinct⟩, fun other among =>
          (new other among).1⟩
      · rintro ⟨⟨missing, distinct⟩, new⟩
        exact ⟨distinct, fun other among => ⟨new other among, fun same => missing (same ▸ among)⟩⟩

/-- Properties are accepted as they are exactly if all their names are different. -/
theorem checkNames_eq_ok_iff {checked : List (DeclaredProperty τ)} :
    checkNames properties = .ok checked ↔
      (properties.flatMap (·.names)).Nodup ∧ properties = checked := by
  have distinct : firstRepeated? [] (properties.flatMap (·.names)) = none ↔ _ :=
    firstRepeated?_eq_none_iff
  rw [checkNames]
  split <;> simp_all

/-- What a declaration has passed that is accepted as one of a bean type. -/
theorem bean_eq_ok_iff {declaration : Declaration τ} {declared : DeclaredBean τ} :
    declaration.bean = .ok declared ↔
      ∃ asked fields properties, TypeAttributes.read declaration.attributes = .ok asked ∧
        declaration.fields? = some fields ∧ readProperties fields = .ok properties ∧
        (properties.flatMap (·.names)).Nodup ∧
        ⟨declaration.ident, declaration.generics, asked, properties⟩ = declared := by
  have whole : declaration.bean = (TypeAttributes.read declaration.attributes).bind fun asked =>
      declaration.structFields.bind fun fields =>
        ((readProperties fields).bind checkNames).bind fun properties =>
          .ok ⟨declaration.ident, declaration.generics, asked, properties⟩ := rfl
  simp only [whole, bind_eq_ok_iff, structFields_eq_ok_iff, checkNames_eq_ok_iff, Except.ok.injEq]
  constructor
  · rintro ⟨asked, read, fields, isStruct, properties, ⟨_, done, distinct, rfl⟩, same⟩
    exact ⟨asked, fields, _, read, isStruct, done, distinct, same⟩
  · rintro ⟨asked, fields, properties, read, isStruct, done, distinct, same⟩
    exact ⟨asked, read, fields, isStruct, properties, ⟨_, done, distinct, rfl⟩, same⟩

/-- The properties of an accepted declaration are those that its fields ask for. -/
theorem follows_of_bean {declaration : Declaration τ} {declared : DeclaredBean τ}
    (accepted : declaration.bean = .ok declared) :
    List.Forall₂ (fun field property => property.Follows field) declaration.exposed
      declared.properties := by
  obtain ⟨_, fields, properties, -, isStruct, done, -, rfl⟩ := bean_eq_ok_iff.1 accepted
  rw [exposed, isStruct, Option.getD_some]
  exact follows_of_readProperties done

/-- A declaration is accepted if it can be read, unless two of its names are the same. -/
theorem exists_bean_iff {declaration : Declaration τ} :
    (∃ declared, declaration.bean = .ok declared) ↔
      declaration.IsReadable ∧ (declaration.exposed.flatMap (·.names)).Nodup := by
  constructor
  · rintro ⟨declared, accepted⟩
    rw [flatMap_names_of_follows (follows_of_bean accepted)]
    obtain ⟨asked, fields, properties, read, isStruct, done, distinct, rfl⟩ :=
      bean_eq_ok_iff.1 accepted
    exact ⟨⟨⟨asked, read⟩, fields, isStruct, exists_readProperties_iff.1 ⟨_, done⟩⟩, distinct⟩
  · rintro ⟨⟨⟨asked, read⟩, fields, isStruct, each⟩, distinct⟩
    obtain ⟨properties, done⟩ := exists_readProperties_iff.2 each
    rw [exposed, isStruct, Option.getD_some,
      flatMap_names_of_follows (follows_of_readProperties done)] at distinct
    exact ⟨_, bean_eq_ok_iff.2 ⟨asked, fields, properties, read, isStruct, done, distinct, rfl⟩⟩

end

end Declaration

/-! ## Filling the table -/

namespace TypeMeta

/-- Inserting properties puts each of them under its name. -/
theorem foldl_insertProperty (infos : List PropertyInfo) (table : TypeMeta) :
    infos.foldl insertProperty table =
      { table with
        slots := (infos.map fun info => (info.name, info)).foldl
          (fun slots entry => slots.put entry.1 entry.2) table.slots } := by
  induction infos generalizing table with
  | nil => rfl
  | cons info rest ih => exact ih _

/-- Aliases that are inserted in a row are put into the aliases of the table, which else stays as it
is. -/
theorem foldl_insertAlias (pairs : List (String × String)) (table : TypeMeta) :
    pairs.foldl (fun table (other, name) => table.insertAlias other name) table =
      { table with
        aliases := pairs.foldl (fun aliases entry => aliases.put entry.1 entry.2)
          table.aliases } := by
  induction pairs generalizing table with
  | nil => rfl
  | cons pair rest ih => exact ih _

end TypeMeta

namespace DeclaredBean

variable {declared : DeclaredBean FieldType} (type : TypeRef) (methods : BeanMethods)
  (make : Constructor)

section

variable (distinct : (declared.properties.flatMap (·.names)).Nodup)

include distinct

/-- A name belongs to one property. -/
theorem eq_of_mem_names {property other : DeclaredProperty FieldType}
    (among : property ∈ declared.properties) (amongOther : other ∈ declared.properties)
    {name : String} (named : name ∈ property.names) (namedOther : name ∈ other.names) :
    property = other := by
  let owners := declared.properties.flatMap fun property =>
    property.names.map fun name => (name, property)
  have unique : (owners.map (·.1)).Nodup := by
    simpa [owners, List.map_flatMap, Function.comp_def] using distinct
  have owns {property : DeclaredProperty FieldType} (among : property ∈ declared.properties)
      (named : name ∈ property.names) : (name, property) ∈ owners :=
    List.mem_flatMap.2 ⟨property, among, List.mem_map.2 ⟨name, named, rfl⟩⟩
  have same := List.inj_on_of_nodup_map unique (owns among named) (owns amongOther namedOther) rfl
  exact (Prod.mk.inj same).2

/-- Different names and aliases make different names. -/
theorem nodup_propertyNames : (declared.properties.map (·.name.content)).Nodup := by
  refine distinct.sublist ?_
  rw [← List.flatMap_singleton' (List.map _ _), List.flatMap_map]
  exact .flatMap_right _ fun property _ => by simp [DeclaredProperty.names]

/-- Different names and aliases make different aliases. -/
theorem nodup_aliases : (declared.aliases.map (·.1)).Nodup := by
  refine distinct.sublist ?_
  rw [aliases, List.map_flatMap]
  exact .flatMap_right _ fun property _ => by simp [DeclaredProperty.names, Function.comp_def]

/-- The table has the declared properties, in order and each under its name. -/
theorem slots_typeMeta :
    (declared.typeMeta type methods make).slots =
      declared.properties.map fun property =>
        (property.name.content, property.info methods type) := by
  rw [typeMeta, TypeMeta.foldl_insertProperty, TypeMeta.foldl_insertAlias]
  refine (NameTable.foldl_put ?_).trans ?_
  · simpa [Function.comp_def, DeclaredProperty.info] using nodup_propertyNames distinct
  · simp [Function.comp_def, DeclaredProperty.info]

/-- The table has the declared aliases. -/
theorem aliases_typeMeta : (declared.typeMeta type methods make).aliases = declared.aliases := by
  rw [typeMeta, TypeMeta.foldl_insertProperty, TypeMeta.foldl_insertAlias]
  exact NameTable.foldl_put (by simpa using nodup_aliases distinct)

/-- A property is found under its name and under its aliases. -/
theorem resolve?_typeMeta {property : DeclaredProperty FieldType}
    (among : property ∈ declared.properties) {name : String} (named : name ∈ property.names) :
    (declared.typeMeta type methods make).resolve? name =
      some (property.info methods type) := by
  have slots := slots_typeMeta type methods make distinct
  have names : ((declared.typeMeta type methods make).slots.map (·.1)).Nodup := by
    simpa [slots, Function.comp_def] using nodup_propertyNames distinct
  have canonical : (declared.typeMeta type methods make).property? property.name.content =
      some (property.info methods type) := by
    refine NameTable.lookup_of_mem names ?_
    rw [slots]
    exact List.mem_map.2 ⟨property, among, rfl⟩
  by_cases isName : name = property.name.content
  · rw [isName, TypeMeta.resolve?, canonical, Option.some_or]
  -- An alias is the name of no property: that property would be the one that has the alias.
  have hidden : (declared.typeMeta type methods make).property? name = none := by
    refine NameTable.lookup_of_lacks fun isCanonical => isName ?_
    rw [slots, List.map_map] at isCanonical
    obtain ⟨other, amongOther, rfl⟩ := List.mem_map.1 isCanonical
    rw [eq_of_mem_names distinct among amongOther named List.mem_cons_self]
    rfl
  have isAlias : (declared.typeMeta type methods make).aliases.lookup name =
      some property.name.content := by
    rw [aliases_typeMeta type methods make distinct]
    refine NameTable.lookup_of_mem (nodup_aliases distinct) ?_
    have inAliases : name ∈ property.aliases.map (·.content) :=
      (List.mem_cons.1 named).resolve_left isName
    obtain ⟨other, amongAliases, rfl⟩ := List.mem_map.1 inAliases
    exact List.mem_flatMap.2 ⟨property, among, List.mem_map.2 ⟨other, amongAliases, rfl⟩⟩
  rw [TypeMeta.resolve?, hidden, isAlias, Option.none_or, Option.bind_some, canonical]

end

/-- A bean can be constructed exactly if its declaration asks for it. -/
theorem isConstructible_typeMeta :
    (declared.typeMeta type methods make).isConstructible = declared.attributes.hasDefault := by
  rw [typeMeta, TypeMeta.foldl_insertProperty, TypeMeta.foldl_insertAlias,
    TypeMeta.isConstructible]
  cases declared.attributes.hasDefault <;> rfl

end DeclaredBean

/-! ## The table of a declaration -/

/-- The property of a table is what the field asks for if its declared property is. -/
theorem DeclaredProperty.Follows.exposes {property : DeclaredProperty FieldType}
    {field : FieldDeclaration FieldType} (follows : property.Follows field)
    (methods : BeanMethods) (type : TypeRef) : (property.info methods type).Exposes field where
  name := (List.cons.inj follows.names).1
  type := congrArg FieldType.declared follows.type
  isReadable := by
    rw [← follows.isReadable, info, PropertyInfo.isReadable]
    cases property.isReadable <;> rfl
  isWritable := by
    rw [← follows.isWritable, info, PropertyInfo.isWritable]
    cases property.isWritable <;> rfl

/-- The property table of an accepted declaration has, in order, one property for each field that is
not skipped, just as the field asks for it; each of the names and aliases of the field stands for
its property; and beans of the type can be made if the type asks for that. A declaration that can be
read is accepted unless two of these names and aliases are the same. -/
theorem Declaration.bean_exposes (declaration : Declaration FieldType) :
    (∀ declared, declaration.bean = .ok declared →
      ∀ (type : TypeRef) (methods : BeanMethods) (make : Constructor),
        let table := declared.typeMeta type methods make
        List.Forall₂ (fun field info => info.Exposes field ∧
          ∀ name ∈ field.names, table.resolve? name = some info)
          declaration.exposed table.properties ∧
        table.isConstructible = Attribute.hasWord declaration.attributes "default") ∧
    ((∃ declared, declaration.bean = .ok declared) ↔
      declaration.IsReadable ∧ (declaration.exposed.flatMap (·.names)).Nodup) := by
  refine ⟨fun declared accepted type methods make => ?_, exists_bean_iff⟩
  intro table
  have follows := follows_of_bean accepted
  obtain ⟨asked, -, properties, read, -, -, distinct, rfl⟩ := bean_eq_ok_iff.1 accepted
  constructor
  · have shown : table.properties = properties.map (·.info methods type) := by
      rw [TypeMeta.properties, DeclaredBean.slots_typeMeta type methods make distinct,
        List.map_map]
      rfl
    rw [shown, List.forall₂_map_right_iff]
    refine List.forall₂_iff_zip.2 ⟨follows.length_eq, fun {field property} paired => ?_⟩
    have here := (List.forall₂_iff_zip.1 follows).2 paired
    refine ⟨here.exposes methods type, fun name named => ?_⟩
    exact DeclaredBean.resolve?_typeMeta type methods make distinct (List.of_mem_zip paired).2
      (here.names ▸ named)
  · rw [DeclaredBean.isConstructible_typeMeta, TypeAttributes.hasDefault_of_read read]

namespace Declaration

/-- An account with a renamed balance and a secret of its own. -/
def account : Declaration FieldType where
  ident := "Account"
  attributes := [⟨"bean", [.word [.word "default"]]⟩]
  body := .struct [
    ⟨"r#type", .text, [⟨"bean", [.pair [.word "alias"] [.literal "r\"kind\""]]⟩]⟩,
    ⟨"secret", .text, [⟨"bean", [.word [.word "skip"]]⟩]⟩,
    ⟨"pin", .text, [⟨"bean", [.word [.word "write_only"]]⟩]⟩,
    ⟨"total", .int .i64, [⟨"bean",
      [.pair [.word "rename"] [.literal "r\"balance\""], .word [.word "read_only"]]⟩]⟩]

/-- The names and aliases of the account are different. -/
theorem nodup_names_account : (account.exposed.flatMap (·.names)).Nodup := by
  decide

/-- The account is accepted. -/
theorem exists_bean_account : ∃ declared, account.bean = .ok declared :=
  exists_bean_iff.2 ⟨⟨⟨_, rfl⟩, _, rfl, by
    simp only [List.forall_mem_cons, List.not_mem_nil, false_implies, implies_true, and_true]
    exact ⟨⟨_, rfl⟩, ⟨_, rfl⟩, ⟨_, rfl⟩, _, rfl⟩⟩, nodup_names_account⟩

/-- The account exposes three of its fields in order, one of them under an alias too, and can be
constructed. -/
theorem bean_exposes_account :
    ∃ declared, account.bean = .ok declared ∧ ∀ type methods make,
      let table := declared.typeMeta type methods make
      table.properties.map (·.name) = ["type", "pin", "balance"] ∧
      (table.resolve? "kind").map (·.name) = some "type" ∧ table.isConstructible = true := by
  obtain ⟨declared, accepted⟩ := exists_bean_account
  refine ⟨declared, accepted, fun type methods make => ?_⟩
  obtain ⟨exposes, makes⟩ := (bean_exposes account).1 declared accepted type methods make
  obtain ⟨kind, _, ⟨isKind, named⟩, later, properties⟩ := List.forall₂_cons_left_iff.1 exposes
  obtain ⟨pin, _, ⟨isPin, -⟩, last, rfl⟩ := List.forall₂_cons_left_iff.1 later
  obtain ⟨balance, _, ⟨isBalance, -⟩, done, rfl⟩ := List.forall₂_cons_left_iff.1 last
  obtain rfl := List.forall₂_nil_left_iff.1 done
  refine ⟨?_, ?_, makes⟩
  · simp only [properties, List.map_cons, List.map_nil, isKind.name, isPin.name, isBalance.name]
    rfl
  · rw [named "kind" (by decide), Option.map_some, isKind.name]
    rfl

end Declaration

end PropertyGraph
