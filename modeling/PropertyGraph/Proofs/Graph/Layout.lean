import PropertyGraph.Access.Accessor
import PropertyGraph.Proofs.Graph.Schema

/-!
# Layouts

A layout lists bean types with their fields. Every field gives a property of its name, which is read
and written as the field is; a type can be made if all its fields have an initial content. The
registry of a layout is plain, and a bean that it makes has its fields. The household at the end is
a layout with a cycle in it: a person has pets, and a pet has an owner.
-/
namespace PropertyGraph

/-- Bean types with their fields. Of two entries of a type, or of a name, the first counts. -/
structure Layout where
  /-- The types and the fields of their beans. -/
  classes : List (TypeRef × NameTable FieldType)

namespace Layout

/-- The fields of a bean type. -/
def fields (layout : Layout) (owner : TypeRef) : NameTable FieldType :=
  (layout.classes.lookup owner).getD []

/-- The schema of a layout. -/
def schema (layout : Layout) : Schema where
  ofType owner name := (layout.fields owner).lookup name

/-- The property of a field. -/
def property (owner : TypeRef) (name : String) (type : FieldType) : PropertyInfo where
  name := name
  type := type.declared
  getter? := some (.ofField owner name)
  setter? := some (.ofField owner name type)

/-- The fields with what they hold initially, so far as they do. -/
def initial (fields : NameTable FieldType) : NameTable Field :=
  fields.filterMap fun (name, type) => type.initial?.map fun content => (name, ⟨type, content⟩)

/-- Makes beans with the initial fields, if all of the fields have an initial content. -/
def make? (owner : TypeRef) (fields : NameTable FieldType) : Option Constructor :=
  if fields.all (·.2.initial?.isSome) then
    some fun world => world.add ⟨owner, initial fields⟩
  else
    none

/-- The property table of a bean type. -/
def table (owner : TypeRef) (fields : NameTable FieldType) : TypeMeta where
  type := owner
  slots := fields.map fun (name, type) => (name, property owner name type)
  constructor? := make? owner fields

/-- The registry of a layout. It knows type handles, too. -/
def registry (layout : Layout) : Registry where
  tables := TypeHandle.typeMeta :: layout.classes.map fun (owner, fields) => table owner fields

section

variable {layout : Layout} {owner : TypeRef} {name : String}

/-- A field of a type is listed with the type. -/
theorem mem_of_lookup_fields {type : FieldType}
    (found : (layout.fields owner).lookup name = some type) :
    ∃ entry ∈ layout.classes, (name, type) ∈ entry.2 := by
  cases listed : layout.classes.lookup owner with
  | none => simp [fields, listed] at found
  | some fields =>
    obtain ⟨before, after, classes, -⟩ := List.lookup_eq_some_iff.1 listed
    simp only [Layout.fields, listed, Option.getD_some] at found
    obtain ⟨front, rest, split, -⟩ := List.lookup_eq_some_iff.1 found
    exact ⟨(owner, fields), by simp [classes], by simp [split]⟩

/-- A test that texts and the types of all listed fields pass is passed by every type of a field. -/
theorem test_of_field? (test : FieldType → Bool) (text : test .text = true)
    (each : ∀ entry ∈ layout.classes, ∀ field ∈ entry.2, test field.2 = true) {type : FieldType}
    (typed : layout.schema.field? owner name = some type) : test type = true := by
  by_cases isHandle : owner = TypeHandle.type
  · subst isHandle
    rw [(Schema.field?_handle typed default).1]
    exact text
  · have found : (layout.fields owner).lookup name = some type := by
      simpa [Schema.field?, isHandle, schema] using typed
    obtain ⟨entry, listed, among⟩ := mem_of_lookup_fields found
    exact each entry listed _ among

/-- The table of a type is that of its fields. -/
theorem registry_get? (layout : Layout) (isPlain : owner ≠ TypeHandle.type) :
    layout.registry.get? owner = (layout.classes.lookup owner).map (table owner) := by
  have isNoHandle : (TypeHandle.typeMeta.type == owner) = false :=
    beq_false_of_ne fun same => isPlain same.symm
  rw [Registry.get?, registry, List.find?_cons, isNoHandle]
  induction layout.classes with
  | nil => rfl
  | cons entry rest ih =>
    obtain ⟨first, fields⟩ := entry
    by_cases same : owner = first
    · simp [same, table]
    · simpa [table, List.find?_cons, List.lookup_cons, beq_false_of_ne same,
        beq_false_of_ne (Ne.symm same)] using ih

/-- The properties of a type are those of its fields. -/
theorem describe?_registry (layout : Layout) (isPlain : owner ≠ TypeHandle.type) (name : String) :
    layout.registry.describe? owner name =
      ((layout.fields owner).lookup name).map (property owner name) := by
  rw [Registry.describe?, registry_get? layout isPlain, fields]
  cases layout.classes.lookup owner with
  | none => rfl
  | some fields =>
    have looked := lookup_map fields (property owner) name
    simpa [TypeMeta.resolve?, TypeMeta.property?, table] using looked

/-- The properties of type handles are read as texts. -/
theorem describe?_registry_handle (layout : Layout) (name : String) :
    layout.registry.describe? TypeHandle.type name =
      (TypeHandle.texts.lookup name).map fun _ =>
        { name := name, type := .text, getter? := some (.ofField TypeHandle.type name) } := by
  have looked := lookup_map TypeHandle.texts (fun name _ =>
    ({ name := name, type := .text, getter? := some (.ofField TypeHandle.type name) } :
      PropertyInfo)) name
  have noAlias : (TypeHandle.typeMeta.property? name).or none = _ := Option.or_none
  exact noAlias.trans looked

/-- A property of the registry is a text of type handles, or else the property of a field. -/
theorem property_of_describe? {info : PropertyInfo}
    (described : layout.registry.describe? owner name = some info) :
    (owner = TypeHandle.type ∧ (∃ text, TypeHandle.texts.lookup name = some text) ∧
        info = { name := name, type := .text, getter? := some (.ofField TypeHandle.type name) }) ∨
      owner ≠ TypeHandle.type ∧ ∃ type, (layout.fields owner).lookup name = some type ∧
        info = property owner name type := by
  by_cases isHandle : owner = TypeHandle.type
  · rw [isHandle, describe?_registry_handle] at described
    obtain ⟨text, found, rfl⟩ := Option.map_eq_some_iff.1 described
    exact .inl ⟨isHandle, ⟨text, found⟩, rfl⟩
  · rw [describe?_registry layout isHandle] at described
    obtain ⟨type, found, rfl⟩ := Option.map_eq_some_iff.1 described
    exact .inr ⟨isHandle, type, found, rfl⟩

/-- The property of a field shows that field and stores in it. -/
theorem isField_property (owner : TypeRef) (name : String) (type : FieldType) :
    (property owner name type).IsField owner name type :=
  .of_ofField rfl (fun _ isGetter => (Option.some.inj isGetter).symm)
    fun _ isSetter => (Option.some.inj isSetter).symm

/-- Every property of the registry of a layout is its field. -/
theorem registry_derived (layout : Layout) : layout.registry.Derived layout.schema where
  isField := by
    intro owner name info described
    obtain ⟨rfl, ⟨text, found⟩, rfl⟩ | ⟨isPlain, type, found, rfl⟩ :=
      property_of_describe? described
    · refine ⟨name, .text, by simp [Schema.field?, found], .of_ofField rfl ?_ (by simp)⟩
      exact fun getter isGetter => (Option.some.inj isGetter).symm
    · have typed : layout.schema.field? owner name = some type := by
        simp [Schema.field?, isPlain, schema, found]
      exact ⟨name, type, typed, isField_property owner name type⟩
  handles := by
    intro name info described
    obtain ⟨-, -, rfl⟩ | ⟨isPlain, -⟩ := property_of_describe? described
    · rfl
    · exact absurd rfl isPlain

/-- Every property of the registry of a layout shows its field. -/
theorem registry_plain (layout : Layout) : layout.registry.Plain layout.schema :=
  layout.registry_derived.plain

/-- A property of the registry of a layout shows the field of its name alone. -/
theorem field_eq_of_shows (isPlain : owner ≠ TypeHandle.type) {info : PropertyInfo}
    (described : layout.registry.describe? owner name = some info) {field : String}
    {type : FieldType} (shows : info.ShowsField owner field type) : field = name := by
  obtain ⟨isHandle, -⟩ | ⟨-, _, -, rfl⟩ := property_of_describe? described
  · exact absurd isHandle isPlain
  have shown := shows.reads (.ofField owner name) rfl ⟨owner, [(name, ⟨.bool, true⟩)]⟩ rfl
  by_cases same : field = name
  · exact same
  · simp [Getter.invoke, Getter.ofField, Bean.fieldValue, Bean.field?, Field.toValue,
      FieldType.toValue, List.lookup_cons, beq_false_of_ne same] at shown

/-- Every property of the registry of a layout can be read. -/
theorem isReadable_registry {info : PropertyInfo}
    (described : layout.registry.describe? owner name = some info) : info.isReadable = true := by
  obtain ⟨-, -, rfl⟩ | ⟨-, type, -, rfl⟩ := property_of_describe? described <;> rfl

/-! ## New beans -/

/-- What a field holds initially leads to no bean. -/
theorem admits_initial {world : World} {type : FieldType} {content : type.Carrier}
    (isInitial : type.initial? = some content) : world.Admits (type.toValue content) := by
  cases type with
  | list element =>
    obtain rfl : [] = content := by simpa [FieldType.initial?] using isInitial
    exact .list [] (by simp)
  | map element =>
    obtain rfl : [] = content := by simpa [FieldType.initial?] using isInitial
    exact .map [] .nil (by simp)
  | option inner =>
    obtain rfl : none = content := by simpa [FieldType.initial?] using isInitial
    exact .atomic _ rfl
  | value =>
    obtain rfl : Value.null = content := by simpa [FieldType.initial?] using isInitial
    exact .atomic _ rfl
  | anyBean => simp [FieldType.initial?] at isInitial
  | bean target => simp [FieldType.initial?] at isInitial
  | _ => exact .atomic _ rfl

/-- A field of a new bean holds the initial content of its type. -/
theorem lookup_initial {fields : NameTable FieldType} {type : FieldType}
    (allInitial : fields.all (·.2.initial?.isSome) = true)
    (found : fields.lookup name = some type) :
    ∃ content, type.initial? = some content ∧
      (initial fields).lookup name = some ⟨type, content⟩ := by
  induction fields with
  | nil => simp at found
  | cons entry rest ih =>
    obtain ⟨first, head⟩ := entry
    simp only [List.all_cons, Bool.and_eq_true] at allInitial
    obtain ⟨content, isInitial⟩ := Option.isSome_iff_exists.1 allInitial.1
    by_cases same : name = first
    · obtain rfl : head = type := by simpa [same] using found
      exact ⟨content, isInitial, by simp [initial, isInitial, same]⟩
    · rw [List.lookup_cons, beq_false_of_ne same] at found
      obtain ⟨content', isInitial', found'⟩ := ih allInitial.2 found
      refine ⟨content', isInitial', ?_⟩
      simpa [initial, isInitial, List.lookup_cons, beq_false_of_ne same] using found'

/-- A constructor of the registry adds a bean of its type, with all its fields in their initial
contents. -/
theorem constructor?_registry {make : Constructor}
    (found : layout.registry.constructor? owner = .ok make) :
    owner ≠ TypeHandle.type ∧ ∃ fields, layout.classes.lookup owner = some fields ∧
      fields.all (·.2.initial?.isSome) = true ∧
      make = fun world => world.add ⟨owner, initial fields⟩ := by
  have isPlain : owner ≠ TypeHandle.type := by
    rintro rfl
    exact absurd found (by simp [Registry.constructor?, Registry.get?, registry,
      show TypeHandle.typeMeta.type = TypeHandle.type from rfl,
      show TypeHandle.typeMeta.constructor? = none from rfl])
  refine ⟨isPlain, ?_⟩
  rw [Registry.constructor?, registry_get? layout isPlain] at found
  cases listed : layout.classes.lookup owner with
  | none => simp [listed] at found
  | some fields =>
    simp only [listed, Option.map_some, table, make?] at found
    by_cases allInitial : fields.all (·.2.initial?.isSome) = true
    · rw [if_pos allInitial] at found
      exact ⟨fields, rfl, allInitial, (Except.ok.inj found).symm⟩
    · simp [allInitial] at found

/-- A world keeps fitting when the registry makes a bean. -/
theorem registry_makes {make : Constructor}
    (found : layout.registry.constructor? owner = .ok make) : layout.schema.Makes make := by
  obtain ⟨isPlain, fields, listed, allInitial, rfl⟩ := constructor?_registry found
  intro world fits
  refine ⟨.of_add world _, World.has_add world _, fits.of_add _ fun field type typed => ?_⟩
  have inLayout : fields.lookup field = some type := by
    simpa [Schema.field?, isPlain, schema, Layout.fields, listed] using typed
  obtain ⟨content, isInitial, holds⟩ := lookup_initial allInitial inLayout
  exact ⟨content, holds, admits_initial isInitial⟩

/-- The bean has the fields of its type, and they show values of the world. -/
def Fills (layout : Layout) (world : World) (bean : Bean) : Prop :=
  bean.type ≠ TypeHandle.type ∧
    ∀ entry ∈ layout.fields bean.type, ∃ content : entry.2.Carrier,
      bean.field? entry.1 = some ⟨entry.2, content⟩ ∧ world.Admits (entry.2.toValue content)

/-- A world fits a layout if each of its beans has its fields. -/
theorem fits_of_fills {world : World} (each : ∀ bean ∈ world.beans, layout.Fills world bean) :
    layout.schema.Fits world := by
  intro ref field type has typed
  obtain ⟨bean, found, sameType⟩ := has
  obtain ⟨isPlain, fields⟩ := each bean (Array.mem_of_getElem? found)
  rw [← sameType, Schema.field?, if_neg isPlain] at typed
  obtain ⟨before, after, split, -⟩ := List.lookup_eq_some_iff.1 typed
  have among : (field, type) ∈ layout.fields bean.type := by simp [split]
  obtain ⟨content, holds, admitted⟩ := fields (field, type) among
  have here : world.bean ref = bean := by simp [World.bean, found]
  exact ⟨content, by rw [World.cell?, here, holds], admitted⟩

end

end Layout

/-! ## A household -/

namespace Household

/-- The type of persons. -/
def person : TypeRef := { path := "household::Person" }

/-- The type of pets. -/
def pet : TypeRef := { path := "household::Pet" }

/-- Persons have friends and pets, and pets may have an owner. -/
def layout : Layout where
  classes := [
    (person, [("name", .text), ("friends", .list (.bean person)), ("pets", .map (.bean pet))]),
    (pet, [("name", .text), ("owner", .option (.bean person))])]

/-- Accesses to households. -/
def accessor : Accessor where
  registry := layout.registry

/-- A person. -/
def personBean (name : String) (friends : (FieldType.list (.bean person)).Carrier)
    (pets : (FieldType.map (.bean pet)).Carrier) : Bean where
  type := person
  fields := [("name", ⟨.text, name⟩), ("friends", ⟨.list (.bean person), friends⟩),
    ("pets", ⟨.map (.bean pet), pets⟩)]

/-- A pet. -/
def petBean (name : String) (owner : (FieldType.option (.bean person)).Carrier) : Bean where
  type := pet
  fields := [("name", ⟨.text, name⟩), ("owner", ⟨.option (.bean person), owner⟩)]

section

variable {world : World}

/-- Persons are no type handles. -/
theorem person_ne_handle : person ≠ TypeHandle.type := by decide

/-- Pets are no type handles. -/
theorem pet_ne_handle : pet ≠ TypeHandle.type := by decide

/-- A person with good references has the fields that the layout asks for. -/
theorem fills_personBean {name : String} {friends : (FieldType.list (.bean person)).Carrier}
    {pets : (FieldType.map (.bean pet)).Carrier}
    (hasFriends : world.Admits ((FieldType.list (.bean person)).toValue friends))
    (hasPets : world.Admits ((FieldType.map (.bean pet)).toValue pets)) :
    layout.Fills world (personBean name friends pets) := by
  refine ⟨person_ne_handle, fun entry among => ?_⟩
  have fields : entry ∈ [("name", FieldType.text), ("friends", .list (.bean person)),
    ("pets", .map (.bean pet))] := among
  simp only [List.mem_cons, List.not_mem_nil, or_false] at fields
  rcases fields with rfl | rfl | rfl
  · exact ⟨name, rfl, .atomic _ rfl⟩
  · exact ⟨friends, rfl, hasFriends⟩
  · exact ⟨pets, rfl, hasPets⟩

/-- A pet with a good reference has the fields that the layout asks for. -/
theorem fills_petBean {name : String} {owner : (FieldType.option (.bean person)).Carrier}
    (hasOwner : world.Admits ((FieldType.option (.bean person)).toValue owner)) :
    layout.Fills world (petBean name owner) := by
  refine ⟨pet_ne_handle, fun entry among => ?_⟩
  have fields : entry ∈ [("name", FieldType.text), ("owner", .option (.bean person))] := among
  simp only [List.mem_cons, List.not_mem_nil, or_false] at fields
  rcases fields with rfl | rfl
  · exact ⟨name, rfl, .atomic _ rfl⟩
  · exact ⟨owner, rfl, hasOwner⟩

end

/-- Eve, whose household it is. -/
def eve : BeanRef := ⟨0, person⟩

/-- Ann, a friend of Eve. -/
def ann : BeanRef := ⟨1, person⟩

/-- Rex, a pet of Eve. -/
def rex : BeanRef := ⟨2, pet⟩

/-- Tom, a pet without an owner. -/
def tom : BeanRef := ⟨3, pet⟩

/-- Eve with Ann for a friend and Rex for a pet, and Tom. -/
def world (guards : List Guard) : World where
  beans := #[personBean "Eve" [⟨ann, rfl⟩] [("rex", ⟨rex, rfl⟩)], personBean "Ann" [] [],
    petBean "Rex" (some ⟨eve, rfl⟩), petBean "Tom" none]
  guards := guards

/-- Eve is in the household. -/
theorem has_eve (guards : List Guard) : (world guards).Has eve :=
  ⟨_, rfl, rfl⟩

/-- The household fits its layout. -/
theorem fits_world (guards : List Guard) : layout.schema.Fits (world guards) := by
  have hasAnn : (world guards).Has ann := ⟨_, rfl, rfl⟩
  have hasRex : (world guards).Has rex := ⟨_, rfl, rfl⟩
  refine Layout.fits_of_fills fun bean among => ?_
  have beans : bean ∈ [personBean "Eve" [⟨ann, rfl⟩] [("rex", ⟨rex, rfl⟩)], personBean "Ann" [] [],
    petBean "Rex" (some ⟨eve, rfl⟩), petBean "Tom" none] := Array.mem_toList_iff.2 among
  simp only [List.mem_cons, List.not_mem_nil, or_false] at beans
  rcases beans with rfl | rfl | rfl | rfl
  · refine fills_personBean (.list _ ?_) (.map _ (by simp [Entries.Ordered]) ?_)
    · simpa [FieldType.toValue] using World.Admits.bean ann hasAnn
    · simpa [FieldType.toValue] using World.Admits.bean rex hasRex
  · exact fills_personBean (.list [] (by simp)) (.map [] .nil (by simp))
  · exact fills_petBean (.optSome _ (.bean eve (has_eve guards)))
  · exact fills_petBean (.atomic _ rfl)

end Household

end PropertyGraph
