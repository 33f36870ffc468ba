import PropertyGraph.Proofs.Convert.Passage
import PropertyGraph.Proofs.Graph.Layout
import PropertyGraph.Proofs.Read.Readable

/-!
# Values of their declared types

A walk over a path peels two things at every segment: the value, and the declared type of the slot
that the value is in. If every getter gives values of the declared type of its property, then
wherever a walk has come to, the value is one of the declared type, or `null`, which a map gives for
a missing entry. So a path that can be read is described as readable, and what is read is `null` or
one of the described type inside its optionals.

The getters may change the world on the way. What is asked of them is asked in each world that
reads and new type handles can lead to.
-/
namespace PropertyGraph

namespace DeclaredType

/-- A value of a declared type has `null` or a value of the type inside all optionals. -/
theorem Conforms.unwrapped {type : DeclaredType} {value : Value} (conforms : type.Conforms value) :
    value.unwrapped = .null ∨ type.unwrapped.Conforms value.unwrapped := by
  induction type generalizing value with
  | any => exact .inr trivial
  | optional content ih =>
    rcases conforms with rfl | ⟨inner, rfl, conforms⟩
    · exact .inl rfl
    · have inside := ih conforms
      exact inside
  | bool | float | char | text | enum =>
    obtain ⟨content, rfl⟩ := conforms
    exact .inr ⟨content, rfl⟩
  | int | list | map | bean =>
    obtain ⟨content, rfl, inside⟩ := conforms
    exact .inr ⟨content, rfl, inside⟩

/-- The items of a list are of the element type of its type. -/
theorem Conforms.item {type : DeclaredType} {value : Value} {items : List Value}
    (conforms : type.Conforms value) (isList : value.unwrapped = .list items) :
    ∀ item ∈ items, type.element.Conforms item := by
  have inside := conforms.unwrapped.resolve_left (by simp [isList])
  rw [isList] at inside
  unfold element
  cases unwrapped : type.unwrapped with
  | list element =>
    rw [unwrapped] at inside
    obtain ⟨_, same, each⟩ := inside
    cases same
    exact each
  | map element =>
    rw [unwrapped] at inside
    obtain ⟨_, same, -⟩ := inside
    cases same
  | _ => exact fun _ _ => trivial

/-- The values of a map are of the element type of its type. -/
theorem Conforms.entry {type : DeclaredType} {value : Value} {entries : List (String × Value)}
    (conforms : type.Conforms value) (isMap : value.unwrapped = .map entries) :
    ∀ entry ∈ entries, type.element.Conforms entry.2 := by
  have inside := conforms.unwrapped.resolve_left (by simp [isMap])
  rw [isMap] at inside
  unfold element
  cases unwrapped : type.unwrapped with
  | map element =>
    rw [unwrapped] at inside
    obtain ⟨_, same, each⟩ := inside
    cases same
    exact each
  | list element =>
    rw [unwrapped] at inside
    obtain ⟨_, same, -⟩ := inside
    cases same
  | _ => exact fun _ _ => trivial

end DeclaredType

/-- The worlds that reads of properties and new type handles lead to. -/
inductive Registry.Sees (registry : Registry) (world : World) : World → Prop
  | start : Sees registry world world
  | read (later : World) (ref : BeanRef) (label : String) (info : PropertyInfo) :
    Sees registry world later → later.Has ref → registry.describe? ref.type label = some info →
    Sees registry world (later.read ref info).2
  | handle (later : World) (described : TypeRef) :
    Sees registry world later → Sees registry world (later.add (TypeHandle.bean described)).2

/-- What a getter gives is a value of the world, and of the declared type of the property. -/
def Registry.Declares (registry : Registry) (world : World) : Prop :=
  ∀ later ref label info value after, registry.Sees world later → later.Has ref →
    registry.describe? ref.type label = some info → later.read ref info = (.ok value, after) →
    after.Admits value ∧ info.type.Conforms value

namespace Accessor

/-- What a step that is taken does, by what is under the cursor. -/
inductive Takes (accessor : Accessor) (world : World) (cursor : Cursor) :
    Segment → Cursor → World → Prop
  | property (ref : BeanRef) (label : String) (info : PropertyInfo) (value : Value)
      (after : World) :
    cursor.value.unwrapped = .bean ref →
    accessor.capability? ref.type label = some (.property info) → info.isReadable = true →
    world.read ref info = (.ok value, after) →
    Takes accessor world cursor (.name label) ⟨value, info.type, ref.type, true, info.isWritable⟩
      after
  | handle (ref : BeanRef) (label : String) :
    cursor.value.unwrapped = .bean ref → accessor.capability? ref.type label = some .handle →
    Takes accessor world cursor (.name label)
      ⟨.bean (world.add (TypeHandle.bean ref.type)).1, .bean TypeHandle.type, ref.type, true,
        false⟩
      (world.add (TypeHandle.bean ref.type)).2
  | item (items : List Value) (key : String) (quoted : Bool) (index : Nat) (value : Value) :
    cursor.value.unwrapped = .list items → listIndex? key = some index →
    items[index]? = some value →
    Takes accessor world cursor (.key key quoted) (cursor.element value) world
  | entry (entries : List (String × Value)) (key : String) (quoted : Bool) :
    cursor.value.unwrapped = .map entries →
    Takes accessor world cursor (.key key quoted)
      (cursor.element ((Entries.find? key entries).getD .null)) world

section

variable {accessor : Accessor} {world middle after : World} {root : BeanRef}
  {before : List Segment} {segment : Segment} {cursor next : Cursor} {path : PropertyPath}

/-- A name that is read of a bean takes the cursor to its property or to the handle. -/
theorem takes_of_readName {ref : BeanRef} {label : String}
    (isBean : cursor.value.unwrapped = .bean ref)
    (done : (accessor.readName before ref label).runOn world = (.ok next, after)) :
    accessor.Takes world cursor (.name label) next after := by
  unfold readName at done
  split at done
  case h_1 info names =>
    split at done
    case isTrue readable =>
      obtain ⟨value, middle, read, rest⟩ := Access.runOn_bind_eq_ok_iff.1 done
      obtain ⟨rfl, rfl⟩ : _ = next ∧ middle = after := by simpa using rest
      have given := Access.runOn_invoke_eq_ok_iff.1 read
      exact .property ref label info value middle isBean names readable given
    case isFalse => simp at done
  case h_2 names =>
    rw [runOn_handleCursor] at done
    cases done
    exact .handle ref label isBean names
  case h_3 => simp at done

/-- Whatever step is taken, it is one of these. -/
theorem takes_of_step
    (stepped : (accessor.step cursor before segment).runOn world = (.ok next, after)) :
    accessor.Takes world cursor segment next after := by
  simp only [step] at stepped
  split at stepped
  case h_1 ref label isBean => exact takes_of_readName isBean stepped
  case h_2 items key quoted isList =>
    cases isIndex : listIndex? key with
    | none => simp [listIndex, isIndex] at stepped
    | some index =>
      simp only [listIndex, isIndex, pure_bind] at stepped
      split at stepped
      case h_1 value found =>
        obtain ⟨rfl, rfl⟩ : _ = next ∧ world = after := by simpa using stepped
        exact .item items key quoted index value isList isIndex found
      case h_2 => simp at stepped
  case h_3 entries key quoted isMap =>
    obtain ⟨rfl, rfl⟩ : _ = next ∧ world = after := by simpa using stepped
    exact .entry entries key quoted isMap
  case h_4 => simp at stepped

/-- The value under a cursor is `null` or of the declared type of its slot, and it is a value of a
world that reads lead to. -/
structure Typed (accessor : Accessor) (world : World) (cursor : Cursor) (after : World) : Prop where
  sees : accessor.registry.Sees world after
  admits : after.Admits cursor.value
  conforms : cursor.value = .null ∨ cursor.declared.Conforms cursor.value

/-- A step leads from a value of its declared type to a value of its declared type. -/
theorem Typed.step (declares : accessor.registry.Declares world)
    (typed : accessor.Typed world cursor middle)
    (takes : accessor.Takes middle cursor segment next after) :
    accessor.Typed world next after := by
  have inside := typed.admits.unwrapped
  cases takes with
  | property ref label info value _ isBean names readable read =>
    have has : middle.Has ref := (isBean ▸ inside).has
    have described := describe?_of_capability? names
    obtain ⟨admits, conforms⟩ :=
      declares middle ref label info value after typed.sees has described read
    have sees := Registry.Sees.read middle ref label info typed.sees has described
    rw [read] at sees
    exact ⟨sees, admits, .inr conforms⟩
  | handle ref label isBean names =>
    exact ⟨.handle middle ref.type typed.sees, .bean _ (World.has_add middle _), .inr ⟨_, rfl, rfl⟩⟩
  | item items key quoted index value isList isIndex found =>
    have among : value ∈ items := List.mem_of_getElem? found
    have present : cursor.value ≠ .null := by
      intro isNull
      simp [isNull, Value.unwrapped, Value.present?] at isList
    refine ⟨typed.sees, (isList ▸ inside).item among, .inr ?_⟩
    exact (typed.conforms.resolve_left present).item isList value among
  | entry entries key quoted isMap =>
    have present : cursor.value ≠ .null := by
      intro isNull
      simp [isNull, Value.unwrapped, Value.present?] at isMap
    cases found : Entries.find? key entries with
    | none => exact ⟨typed.sees, .atomic _ rfl, .inl rfl⟩
    | some value =>
      have among : (key, value) ∈ entries := Entries.mem_of_find? found
      refine ⟨typed.sees, (isMap ▸ inside).entry among, .inr ?_⟩
      exact (typed.conforms.resolve_left present).entry isMap _ among

/-- Whatever a row of segments comes to is of its declared type. -/
theorem ComesTo.typed (declares : accessor.registry.Declares world) (has : world.Has root)
    {segments : List Segment} (comes : accessor.ComesTo world root segments cursor after) :
    accessor.Typed world cursor after := by
  induction comes with
  | root => exact ⟨.start, .bean root has, .inr ⟨root, rfl, rfl⟩⟩
  | step before segment cursor next middle after _ _ stepped ih =>
    exact ih.step declares (takes_of_step stepped)

/-- What a read gives is described: as readable, and with a declared type inside whose optionals
the value is, unless it is `null`. -/
theorem describe_of_get (declares : accessor.registry.Declares world) (has : world.Has root)
    {value : Value} (read : (accessor.get root path).runOn world = (.ok value, after)) :
    ∃ descriptor seen, (accessor.describe root path).runOn world = (.ok descriptor, seen) ∧
      descriptor.isReadable = true ∧
      (value = .null ∨ descriptor.type.unwrapped.Conforms value) := by
  obtain ⟨next, comes, rfl⟩ := get_eq_ok_iff.1 read
  obtain ⟨seen, described⟩ := comes.describe
  refine ⟨_, seen, described, comes.isReadable, ?_⟩
  rcases (comes.typed declares has).conforms with isNull | conforms
  · left
    rw [isNull]
    rfl
  · exact conforms.unwrapped

end

end Accessor

/-! ## Registries of fields -/

section

variable {registry : Registry} {schema : Schema} {world later : World} {ref : BeanRef}
  {info : PropertyInfo}

/-- Reading a property that shows a field leaves the world as it is, also without a getter. -/
theorem PropertyInfo.ShowsField.read_world {field : String} {type : FieldType}
    (shows : info.ShowsField ref.type field type) (has : world.Has ref) :
    (world.read ref info).2 = world := by
  by_cases readable : info.isReadable
  · rw [shows.read readable has]
  · have noGetter : info.getter? = none := by simpa [PropertyInfo.isReadable] using readable
    simp only [World.read, PropertyInfo.read, noGetter, World.putBean_bean]
    split <;> rfl

/-- In the worlds that reads of fields lead to, the beans have their fields. -/
theorem Registry.Sees.fits (plain : registry.Plain schema) (fits : schema.Fits world)
    (sees : registry.Sees world later) : schema.Fits later := by
  induction sees with
  | start => exact fits
  | read later ref label info _ has described ih =>
    obtain ⟨field, type, -, shows⟩ := plain.shows _ _ _ described
    rw [shows.read_world has]
    exact ih
  | handle later described _ ih => exact ih.of_handle described

/-- A getter of a field gives values of the type of the field. -/
theorem Registry.Plain.declares (plain : registry.Plain schema) (fits : schema.Fits world) :
    registry.Declares world := by
  intro later ref label info value after sees has described read
  obtain ⟨field, type, typed, shows⟩ := plain.shows _ _ _ described
  have readable : info.isReadable = true := by
    by_contra noGetter
    have none : info.getter? = none := by simpa [PropertyInfo.isReadable] using noGetter
    simp only [World.read, PropertyInfo.read, none] at read
    split at read <;> simp at read
  rw [shows.read readable has] at read
  obtain ⟨content, -, shown, admitted⟩ := (sees.fits plain fits).shown has typed
  split at read
  · simp at read
  · obtain ⟨rfl, rfl⟩ : later.shown ref field = value ∧ later = after := by simpa using read
    rw [shows.declared, shown]
    exact ⟨shown ▸ admitted, type.conforms_toValue content⟩

end

namespace Household

/-- The owner of Rex is declared as an optional, and found to be a person. -/
theorem describe_owner_of_rex :
    let path : PropertyPath := ⟨.name "pets", [.key "rex" false, .name "owner"]⟩
    accessor.registry.Declares (world []) ∧ (world []).Has eve ∧
      (accessor.get eve path).runOn (world []) = (.ok (.bean eve), world []) ∧
      ∃ descriptor seen, (accessor.describe eve path).runOn (world []) = (.ok descriptor, seen) ∧
        descriptor.isReadable = true ∧
        (Value.bean eve = .null ∨ descriptor.type.unwrapped.Conforms (.bean eve)) := by
  intro path
  have declares : accessor.registry.Declares (world []) :=
    layout.registry_plain.declares (fits_world [])
  have read : (accessor.get eve path).runOn (world []) = (.ok (.bean eve), world []) := rfl
  exact ⟨declares, has_eve [], read, Accessor.describe_of_get declares (has_eve []) read⟩

end Household

end PropertyGraph
