import PropertyGraph.Proofs.Graph.Cells
import PropertyGraph.Proofs.Value.Keys
import PropertyGraph.Registry.Basic

/-!
# Typed worlds

A schema gives the fields of every bean type with their types. A world fits it if every bean has
its fields, and what they show are values of the world: references lead to beans, and maps are in
the order of their keys. A registry is plain if each of its properties shows a field of the schema.
The getter then gives the value of the field; the setter stores a value that the field takes, or
refuses it and leaves the bean alone. It is derived if no setter refuses what the field takes.
-/
namespace PropertyGraph

/-- A value that holds no other value and no bean. -/
def Value.isAtomic : Value → Bool
  | .list _ | .map _ | .optSome _ | .bean _ => false
  | _ => true

/-- A value with nothing inside is its own core. -/
theorem Value.core_of_isAtomic {value : Value} (simple : value.isAtomic = true) :
    value.core = value := by
  cases value with
  | optSome content => simp [isAtomic] at simple
  | _ => rfl

/-- The references in a value lead to beans, and the maps in it are in order. -/
inductive World.Admits (world : World) : Value → Prop
  | atomic (value : Value) : value.isAtomic = true → Admits world value
  | bean (ref : BeanRef) : world.Has ref → Admits world (.bean ref)
  | optSome (content : Value) : Admits world content → Admits world (.optSome content)
  | list (items : List Value) : (∀ item ∈ items, Admits world item) → Admits world (.list items)
  | map (entries : List (String × Value)) : Entries.Ordered entries →
      (∀ entry ∈ entries, Admits world entry.2) → Admits world (.map entries)

/-- The fields of beans. -/
structure Schema where
  /-- The type of a field of a bean type that is not the type of type handles. -/
  ofType : TypeRef → String → Option FieldType

namespace Schema

/-- The type of a field of a bean type. A type handle has its texts. -/
def field? (schema : Schema) (owner : TypeRef) (name : String) : Option FieldType :=
  if owner = TypeHandle.type then (TypeHandle.texts.lookup name).map fun _ => .text
  else schema.ofType owner name

/-- Every bean of the world has its fields, and they show values of the world. -/
def Fits (schema : Schema) (world : World) : Prop :=
  ∀ (ref : BeanRef) (field : String) (type : FieldType), world.Has ref →
    schema.field? ref.type field = some type →
    ∃ content : type.Carrier, world.cell? ref field = some ⟨type, content⟩ ∧
      world.Admits (type.toValue content)

/-- The constructor gives a bean of a world that fits again, and leaves all other beans alone. -/
def Makes (schema : Schema) (make : Constructor) : Prop :=
  ∀ world, schema.Fits world →
    world.EvolvesTo [] (make world).2 ∧ (make world).2.Has (make world).1 ∧
      schema.Fits (make world).2

end Schema

/-- The property shows a field of beans of a type. -/
structure PropertyInfo.ShowsField (info : PropertyInfo) (owner : TypeRef) (field : String)
    (type : FieldType) : Prop where
  declared : info.type = type.declared
  reads : ∀ getter, info.getter? = some getter → ∀ bean : Bean, bean.type = owner →
    getter.invoke bean = (.ok (bean.fieldValue field), bean)
  writes : ∀ setter, info.setter? = some setter → ∀ (bean : Bean) (value : Value),
    bean.type = owner →
    setter.invoke bean value = (Setter.ofField owner field type).invoke bean value ∨
      ∃ error, setter.invoke bean value = (.error error, bean)

/-- Every property shows a field, and no property of type handles can be written. -/
structure Registry.Plain (registry : Registry) (schema : Schema) : Prop where
  shows : ∀ owner name info, registry.describe? owner name = some info →
    ∃ field type, schema.field? owner field = some type ∧ info.ShowsField owner field type
  handles : ∀ name info, registry.describe? TypeHandle.type name = some info →
    info.isWritable = false

/-- The property shows a field, and its setter stores whatever the field takes. -/
structure PropertyInfo.IsField (info : PropertyInfo) (owner : TypeRef) (field : String)
    (type : FieldType) : Prop extends info.ShowsField owner field type where
  takes : ∀ setter, info.setter? = some setter → ∀ (bean : Bean) (value : Value),
    bean.type = owner →
    setter.invoke bean value = (Setter.ofField owner field type).invoke bean value

/-- Every property is a field, and no property of type handles can be written. -/
structure Registry.Derived (registry : Registry) (schema : Schema) : Prop where
  isField : ∀ owner name info, registry.describe? owner name = some info →
    ∃ field type, schema.field? owner field = some type ∧ info.IsField owner field type
  handles : ∀ name info, registry.describe? TypeHandle.type name = some info →
    info.isWritable = false

/-- A registry of fields is plain. -/
theorem Registry.Derived.plain {registry : Registry} {schema : Schema}
    (derived : registry.Derived schema) : registry.Plain schema where
  shows owner name info described := by
    obtain ⟨field, type, typed, isField⟩ := derived.isField owner name info described
    exact ⟨field, type, typed, isField.toShowsField⟩
  handles := derived.handles

section

variable {schema : Schema} {world later : World} {ref : BeanRef} {changed : List BeanRef}

/-- What a world admits it admits when more beans have come in. -/
theorem World.Admits.mono {value : Value} (admitted : world.Admits value)
    (kept : ∀ ref, world.Has ref → later.Has ref) : later.Admits value := by
  induction admitted with
  | atomic value simple => exact .atomic value simple
  | bean ref has => exact .bean ref (kept ref has)
  | optSome content _ ih => exact .optSome content ih
  | list items _ ih => exact .list items ih
  | map entries ordered _ ih => exact .map entries ordered ih

/-- The items of an admitted list are admitted. -/
theorem World.Admits.item {items : List Value} (admitted : world.Admits (.list items))
    {item : Value} (among : item ∈ items) : world.Admits item := by
  cases admitted with
  | atomic _ simple => simp [Value.isAtomic] at simple
  | list _ each => exact each item among

/-- The values of an admitted map are admitted. -/
theorem World.Admits.entry {entries : List (String × Value)}
    (admitted : world.Admits (.map entries)) {entry : String × Value} (among : entry ∈ entries) :
    world.Admits entry.2 := by
  cases admitted with
  | atomic _ simple => simp [Value.isAtomic] at simple
  | map _ _ each => exact each entry among

/-- The names of an admitted map are in order. -/
theorem World.Admits.ordered {entries : List (String × Value)}
    (admitted : world.Admits (.map entries)) : Entries.Ordered entries := by
  cases admitted with
  | atomic _ simple => simp [Value.isAtomic] at simple
  | map _ ordered _ => exact ordered

/-- The core of an admitted value is admitted. -/
theorem World.Admits.core {value : Value} (admitted : world.Admits value) :
    world.Admits value.core := by
  induction admitted with
  | atomic value simple => exact (Value.core_of_isAtomic simple).symm ▸ .atomic value simple
  | bean ref has => exact .bean ref has
  | optSome content _ ih => exact ih
  | list items each _ => exact .list items each
  | map entries ordered each _ => exact .map entries ordered each

/-- What an admitted value shows through its optionals is admitted. -/
theorem World.Admits.unwrapped {value : Value} (admitted : world.Admits value) :
    world.Admits value.unwrapped := by
  rw [Value.unwrapped_eq_core]
  split
  · exact .atomic _ rfl
  · exact admitted.core

/-- A value is admitted if its core is. -/
theorem World.Admits.of_core {value : Value} (admitted : world.Admits value.core) :
    world.Admits value := by
  induction value using Value.core.induct with
  | case1 content ih => exact .optSome content (ih admitted)
  | case2 value notSome => simpa only [Value.core] using admitted

/-- An admitted reference leads to a bean. -/
theorem World.Admits.has (admitted : world.Admits (.bean ref)) : world.Has ref := by
  cases admitted with
  | atomic _ simple => simp [Value.isAtomic] at simple
  | bean _ has => exact has

/-- What a key leads to in an admitted value is admitted. -/
theorem World.Admits.slot? {value slot : Value} (admitted : world.Admits value)
    {segment : Segment} (found : value.slot? segment = some slot) : world.Admits slot := by
  have inside := admitted.core
  cases segment with
  | name label => simp [Value.slot?] at found
  | key label quoted =>
    simp only [Value.slot?] at found
    split at found
    case h_1 items core =>
      obtain ⟨index, -, found⟩ := Option.bind_eq_some_iff.1 found
      exact (core ▸ inside).item (List.mem_of_getElem? found)
    case h_2 entries core => exact (core ▸ inside).entry (Entries.mem_of_find? found)
    case h_3 => simp at found

/-! ## Worlds that fit -/

/-- A table whose entries are changed under their names has the changed entry under each name. -/
theorem lookup_map {α β : Type} (entries : NameTable α) (change : String → α → β) (name : String) :
    (entries.map fun entry => (entry.1, change entry.1 entry.2)).lookup name =
      (entries.lookup name).map (change name) := by
  induction entries with
  | nil => rfl
  | cons head rest ih =>
    obtain ⟨first, entry⟩ := head
    by_cases same : name = first
    · simp [same]
    · simp [List.lookup_cons, beq_false_of_ne same, ih]

/-- The fields of a type handle are texts. -/
theorem Schema.field?_handle {field : String} {type : FieldType}
    (typed : schema.field? TypeHandle.type field = some type) (described : TypeRef) :
    type = .text ∧ ∃ text : String,
      (TypeHandle.bean described).field? field = some ⟨.text, text⟩ := by
  rw [field?, if_pos rfl] at typed
  obtain ⟨text, found, rfl⟩ := Option.map_eq_some_iff.1 typed
  refine ⟨rfl, text described, ?_⟩
  have looked := lookup_map TypeHandle.texts
    (fun _ text => (⟨.text, text described⟩ : Field)) field
  rw [found] at looked
  exact looked

namespace Schema.Fits

/-- A world that fits shows an admitted value of the type of the field. -/
theorem shown (fits : schema.Fits world) (has : world.Has ref) {field : String} {type : FieldType}
    (typed : schema.field? ref.type field = some type) :
    ∃ content : type.Carrier, world.cell? ref field = some ⟨type, content⟩ ∧
      world.shown ref field = type.toValue content ∧ world.Admits (world.shown ref field) := by
  obtain ⟨content, found, admitted⟩ := fits ref field type has typed
  have shows : world.shown ref field = type.toValue content := by
    simp [World.shown_eq, found, Field.toValue]
  exact ⟨content, found, shows, shows ▸ admitted⟩

/-- A record leaves a world fitting. -/
theorem of_record (fits : schema.Fits world) (entry : LogRecord) :
    schema.Fits (world.record entry) := by
  intro ref field type has typed
  obtain ⟨content, found, admitted⟩ := fits ref field type has typed
  exact ⟨content, found, admitted.mono fun _ has => has⟩

/-- A world keeps fitting when a field takes a value of its type. -/
theorem of_store (fits : schema.Fits world) (has : world.Has ref) {field : String}
    {type : FieldType} (typed : schema.field? ref.type field = some type)
    (content : type.Carrier) (admitted : world.Admits (type.toValue content)) :
    schema.Fits (world.store ref field ⟨type, content⟩) := by
  have kept := (World.EvolvesTo.of_store has field ⟨type, content⟩).has
  intro other field' type' hasOther typed'
  have hadOther := (World.has_store_iff has field ⟨type, content⟩ other).1 hasOther
  rw [World.cell?_store has hadOther]
  by_cases same : other = ref ∧ field' = field
  · obtain ⟨rfl, rfl⟩ := same
    obtain rfl : type = type' := by simpa [typed] using typed'
    exact ⟨content, by simp, admitted.mono kept⟩
  · rw [if_neg same]
    obtain ⟨content', found, admitted'⟩ := fits other field' type' hadOther typed'
    exact ⟨content', found, admitted'.mono kept⟩

/-- A world keeps fitting when a bean with its fields comes in. -/
theorem of_add (fits : schema.Fits world) (bean : Bean)
    (complete : ∀ field type, schema.field? bean.type field = some type →
      ∃ content : type.Carrier, bean.field? field = some ⟨type, content⟩ ∧
        (world.add bean).2.Admits (type.toValue content)) :
    schema.Fits (world.add bean).2 := by
  have evolves := World.EvolvesTo.of_add world bean
  intro ref field type has typed
  obtain ⟨here, found, sameType⟩ := has
  rw [World.add, Array.getElem?_push] at found
  by_cases isNew : ref.index = world.beans.size
  · rw [if_pos isNew, Option.some.injEq] at found
    subst found
    have same : (world.add bean).2.bean ref = bean := by
      simp [World.bean, World.add, isNew]
    rw [World.cell?, same]
    exact complete field type (sameType ▸ typed)
  · rw [if_neg isNew] at found
    have had : world.Has ref := ⟨here, found, sameType⟩
    obtain ⟨content, found', admitted⟩ := fits ref field type had typed
    rw [evolves.cell? had (by simp)]
    exact ⟨content, found', admitted.mono evolves.has⟩

/-- A world keeps fitting when a type handle comes in. -/
theorem of_handle (fits : schema.Fits world) (described : TypeRef) :
    schema.Fits (world.add (TypeHandle.bean described)).2 := by
  refine fits.of_add _ fun field type typed => ?_
  obtain ⟨rfl, text, found⟩ := Schema.field?_handle typed described
  exact ⟨text, found, .atomic _ rfl⟩

end Schema.Fits

/-! ## Properties that show fields -/

/-- A property that is read and written through a field is that field. -/
theorem PropertyInfo.IsField.of_ofField {info : PropertyInfo} {owner : TypeRef} {field : String}
    {type : FieldType} (declared : info.type = type.declared)
    (reads : ∀ getter, info.getter? = some getter → getter = .ofField owner field)
    (writes : ∀ setter, info.setter? = some setter → setter = .ofField owner field type) :
    info.IsField owner field type where
  declared := declared
  reads getter isGetter bean sameType := by
    rw [reads getter isGetter]
    simp [Getter.invoke, Getter.ofField, sameType]
  writes setter isSetter bean value _ := .inl (by rw [writes setter isSetter])
  takes setter isSetter bean value _ := by rw [writes setter isSetter]

namespace PropertyInfo.ShowsField

variable {info : PropertyInfo} {owner : TypeRef} {field : String} {type : FieldType}

/-- Whatever bean it is asked for, a read leaves it as it is. -/
theorem read_snd {owner : TypeRef} (shows : info.ShowsField owner field type) (bean : Bean) :
    (info.read bean).2 = bean := by
  cases isGetter : info.getter? with
  | none => simp [PropertyInfo.read, isGetter]
  | some getter =>
    simp only [PropertyInfo.read, isGetter]
    by_cases sameType : bean.type = owner
    · rw [shows.reads getter isGetter bean sameType]
    · have receiver : getter.receiver = owner := by
        have shown := shows.reads getter isGetter ⟨owner, []⟩ rfl
        rw [Getter.invoke] at shown
        split at shown
        case isTrue same => exact same.symm
        case isFalse => simp at shown
      simp [Getter.invoke, receiver, sameType]

/-- Reading a property that shows a field leaves the world as it is. -/
theorem world_read (shows : info.ShowsField ref.type field type) (world : World) :
    (world.read ref info).2 = world := by
  rw [World.read]
  split
  · rfl
  · change world.putBean ref (info.read (world.bean ref)).2 = world
    rw [shows.read_snd, World.putBean_bean]

/-- A read gives the value of the field, unless a guard is in the way. -/
theorem read (shows : info.ShowsField ref.type field type) (readable : info.isReadable = true)
    (has : world.Has ref) :
    world.read ref info =
      (if world.isHeldExclusively ref then .error (.borrowed ref.type.path)
        else .ok (world.shown ref field), world) := by
  obtain ⟨getter, isGetter⟩ := Option.isSome_iff_exists.1 readable
  have reads : info.read (world.bean ref) = (.ok (world.shown ref field), world.bean ref) := by
    simp only [PropertyInfo.read, isGetter]
    exact shows.reads getter isGetter _ has.bean_type
  by_cases held : world.isHeldExclusively ref
  · simp [World.read, held]
  · simp [World.read, held, reads, World.putBean_bean]

/-- A write stores what the field takes, or it is refused and changes nothing. -/
theorem write (shows : info.ShowsField ref.type field type) (writable : info.isWritable = true)
    (has : world.Has ref) (value : Value) :
    (∃ content, type.ofValue value = .ok content ∧ world.isHeld ref = false ∧
      world.write ref info value = (.ok (), world.store ref field ⟨type, content⟩)) ∨
    ∃ error, world.write ref info value = (.error error, world) := by
  obtain ⟨setter, isSetter⟩ := Option.isSome_iff_exists.1 writable
  by_cases held : world.isHeld ref
  · exact .inr ⟨.borrowed ref.type.path, by simp [World.write, held]⟩
  have writes : world.write ref info value =
      ((setter.invoke (world.bean ref) value).1,
        world.putBean ref (setter.invoke (world.bean ref) value).2) := by
    simp [World.write, held, PropertyInfo.write, isSetter]
  rw [writes]
  rcases shows.writes setter isSetter (world.bean ref) value has.bean_type with stored | refused
  · rw [stored]
    cases taken : type.ofValue value with
    | ok content =>
      refine .inl ⟨content, rfl, by simpa using held, ?_⟩
      simp [Setter.invoke, Setter.ofField, has.bean_type, taken, World.store, World.modifyBean]
    | error cause =>
      refine .inr ⟨.value cause, ?_⟩
      simp [Setter.invoke, Setter.ofField, has.bean_type, taken, World.putBean_bean]
  · obtain ⟨error, refused⟩ := refused
    exact .inr ⟨error, by rw [refused, World.putBean_bean]⟩

end PropertyInfo.ShowsField

end

end PropertyGraph
