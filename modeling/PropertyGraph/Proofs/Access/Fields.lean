import PropertyGraph.Access.Write
import PropertyGraph.Proofs.Access.Frame
import PropertyGraph.Proofs.Field.Stores

/-!
# Accesses to properties that show fields

What the two invocations of an access do where the property shows a field. A read gives the value
of the field, and a value that is put into a property is stored or refused; a refusal changes
nothing and names the segments up to the property.
-/
namespace PropertyGraph.Accessor

variable {accessor : Accessor} {schema : Schema} {world after : World} {ref : BeanRef}
  {info : PropertyInfo} {field : String} {type : FieldType}

/-- The error of a value that was not put into a property: the property has no setter, or the
setter was not reached or refused. -/
def PutRefused (walked : List Segment) (owner : TypeRef) (info : PropertyInfo)
    (error : AccessError) : Prop :=
  (info.isWritable = false ∧ error = readOnly walked owner) ∨
    ∃ cause, error = .invocationFailed (Segment.render walked) owner cause

/-- A name that is a property is described by the registry. -/
theorem describe?_of_capability? {owner : TypeRef} {name : String}
    (found : accessor.capability? owner name = some (.property info)) :
    accessor.registry.describe? owner name = some info := by
  unfold capability? at found
  split at found
  · simp at found
  · cases described : accessor.registry.describe? owner name with
    | none => split at found <;> simp_all
    | some other => simp_all

/-- A name that is a property of beans of a type shows a field of them. -/
theorem shows_of_capability? (plain : accessor.registry.Plain schema) {owner : TypeRef}
    {name : String} (names : accessor.capability? owner name = some (.property info)) :
    ∃ field type, schema.field? owner field = some type ∧ info.ShowsField owner field type :=
  plain.shows owner name info (describe?_of_capability? names)

/-- A property that shows a field is read as what the field shows, unless a guard is in the way. -/
theorem runOn_read (shows : info.ShowsField ref.type field type)
    (readable : info.isReadable = true) (has : world.Has ref) (walked : List Segment) :
    (Access.invoke walked ref (·.read ref info)).runOn world =
      (if world.isHeldExclusively ref then
          .error (.invocationFailed (Segment.render walked) ref.type (.borrowed ref.type.path))
        else .ok (world.shown ref field), world) := by
  rw [Access.runOn_invoke, shows.read readable has]
  by_cases held : world.isHeldExclusively ref
  · simp [held]
  · simp [held]

/-- A property whose value is present is entered by reading it. -/
theorem runOn_enter_of_read {request : WriteRequest} {walked : List Segment} {value : Value}
    (read : (Access.invoke walked ref (·.read ref info)).runOn world = (.ok value, after))
    (present : value.isAbsent = false) :
    (accessor.enter request walked ref info).runOn world = (.ok value, after) := by
  rw [enter, Access.runOn_bind_of_ok read]
  simp [present]

/-- A read depends on what the field shows and on the guards. -/
theorem read_eq_of_shown (shows : info.ShowsField ref.type field type) (has : world.Has ref)
    (hasAfter : after.Has ref) (guards : after.guards = world.guards)
    (same : after.shown ref field = world.shown ref field) :
    (after.read ref info).1 = (world.read ref info).1 := by
  by_cases readable : info.isReadable
  · rw [shows.read readable has, shows.read readable hasAfter,
      World.isHeldExclusively_of_guards guards, same]
  · have noGetter : info.getter? = none := by simpa [PropertyInfo.isReadable] using readable
    simp only [World.read, PropertyInfo.read, noGetter, World.isHeldExclusively_of_guards guards]
    split <;> rfl

/-- A value is put into a property as the field stores it, or it is refused. -/
theorem runOn_putBack (shows : info.ShowsField ref.type field type) (has : world.Has ref)
    (walked : List Segment) (value : Value) :
    (∃ content, type.ofValue value = .ok content ∧ world.isHeld ref = false ∧
      (putBack walked ref info value).runOn world =
        (.ok (), world.store ref field ⟨type, content⟩)) ∨
    ∃ error, PutRefused walked ref.type info error ∧
      (putBack walked ref info value).runOn world = (.error error, world) := by
  by_cases writable : info.isWritable
  · simp only [putBack, writable, ↓reduceIte, put, Access.runOn_invoke]
    rcases shows.write writable has value with ⟨content, took, free, stored⟩ | ⟨cause, refused⟩
    · exact .inl ⟨content, took, free, by simp [stored]⟩
    · exact .inr ⟨_, .inr ⟨cause, rfl⟩, by simp [refused]⟩
  · exact .inr ⟨_, .inl ⟨by simpa using writable, rfl⟩, by simp [putBack, writable]⟩

/-- What the field takes is put into a property, unless a guard is in the way. -/
theorem runOn_putBack_of_isField (isField : info.IsField ref.type field type)
    (has : world.Has ref) (writable : info.isWritable = true) (free : world.isHeld ref = false)
    {value : Value} {content : type.Carrier} (took : type.ofValue value = .ok content)
    (walked : List Segment) :
    (putBack walked ref info value).runOn world =
      (.ok (), world.store ref field ⟨type, content⟩) := by
  obtain ⟨setter, isSetter⟩ := Option.isSome_iff_exists.1 writable
  have stored : setter.invoke (world.bean ref) value =
      (.ok (), (world.bean ref).withField field ⟨type, content⟩) := by
    rw [isField.takes setter isSetter _ _ has.bean_type]
    simp [Setter.invoke, Setter.ofField, has.bean_type, took]
  simp [putBack, writable, put, World.write, free, PropertyInfo.write, isSetter, stored,
    World.store, World.modifyBean]

/-- A value that was put into a property is stored in the field that the property shows. -/
theorem eq_store_of_putBack (shows : info.ShowsField ref.type field type) (has : world.Has ref)
    {walked : List Segment} {value : Value}
    (done : (putBack walked ref info value).runOn world = (.ok (), after)) :
    ∃ content, type.ofValue value = .ok content ∧ world.isHeld ref = false ∧
      after = world.store ref field ⟨type, content⟩ := by
  rcases runOn_putBack shows has walked value with ⟨content, took, free, stored⟩ | ⟨_, -, refused⟩
  · rw [stored] at done
    exact ⟨content, took, free, (Prod.mk.inj done).2.symm⟩
  · simp [refused] at done

/-- A value that is not put into a property is refused by it, whatever the property shows. -/
theorem putRefused_of_putBack {walked : List Segment} {value : Value} {error : AccessError}
    (failed : (putBack walked ref info value).runOn world = (.error error, after)) :
    PutRefused walked ref.type info error := by
  by_cases writable : info.isWritable
  · simp only [putBack, writable, ↓reduceIte, put, Access.runOn_invoke] at failed
    cases written : (world.write ref info value).1 with
    | ok => simp [written] at failed
    | error cause =>
      simp only [written, Access.mapError_error, Prod.mk.injEq, Except.error.injEq] at failed
      exact .inr ⟨cause, failed.1.symm⟩
  · simp only [putBack, writable, Bool.false_eq_true, ↓reduceIte, Access.runOn_throw,
      Prod.mk.injEq, Except.error.injEq] at failed
    exact .inl ⟨by simpa using writable, failed.1.symm⟩

/-- A value that is refused by a property changes nothing. -/
theorem eq_of_putBack_refused (shows : info.ShowsField ref.type field type) (has : world.Has ref)
    {walked : List Segment} {value : Value} {error : AccessError}
    (failed : (putBack walked ref info value).runOn world = (.error error, after)) :
    after = world ∧ PutRefused walked ref.type info error := by
  refine ⟨?_, putRefused_of_putBack failed⟩
  rcases runOn_putBack shows has walked value with ⟨_, -, -, stored⟩ | ⟨_, -, unchanged⟩
  · simp [stored] at failed
  · exact (Prod.mk.inj (failed.symm.trans unchanged)).2

/-- A value is put into a property exactly if the property has a setter and the setter takes it. -/
theorem putBack_succeeds_iff {walked : List Segment} {value : Value} :
    (∃ after, (putBack walked ref info value).runOn world = (.ok (), after)) ↔
      info.isWritable = true ∧ (world.write ref info value).1 = .ok () := by
  by_cases writable : info.isWritable
  · simp only [putBack, writable, ↓reduceIte, put, Access.runOn_invoke_eq_ok_iff, true_and]
    exact ⟨fun ⟨_, done⟩ => congrArg Prod.fst done, fun done => ⟨_, Prod.ext done rfl⟩⟩
  · simp [putBack, writable]

/-- A value that was put into a property can be put into it where the bean and the guards are the
same, and the same is stored. -/
theorem putBack_again (shows : info.ShowsField ref.type field type) (has : world.Has ref)
    {later : World} (hasLater : later.Has ref) (guards : later.guards = world.guards)
    (same : later.bean ref = world.bean ref) {walked : List Segment} {value : Value}
    (done : (putBack walked ref info value).runOn world = (.ok (), after)) :
    ∃ cell, after = world.store ref field cell ∧
      (putBack walked ref info value).runOn later = (.ok (), later.store ref field cell) := by
  obtain ⟨content, took, -, rfl⟩ := eq_store_of_putBack shows has done
  obtain ⟨writable, accepted⟩ := putBack_succeeds_iff.1 ⟨_, done⟩
  rw [← World.write_fst_of_bean guards same] at accepted
  obtain ⟨last, done'⟩ : ∃ last,
      (putBack walked ref info value).runOn later = (.ok (), last) :=
    putBack_succeeds_iff.2 ⟨writable, accepted⟩
  obtain ⟨content', took', -, rfl⟩ := eq_store_of_putBack shows hasLater done'
  obtain rfl := Except.ok.inj (took.symm.trans took')
  exact ⟨⟨type, content⟩, rfl, done'⟩

/-- A value that is put into a property is stored in the field that the property shows, and no other
bean changes. -/
theorem stores_of_putBack (has : world.Has ref) (shows : info.ShowsField ref.type field type)
    {walked : List Segment} {value : Value}
    (done : (putBack walked ref info value).runOn world = (.ok (), after)) :
    world.EvolvesTo [ref] after ∧ world.isHeld ref = false ∧
      type.Stores value (after.shown ref field) := by
  obtain ⟨content, took, free, rfl⟩ := eq_store_of_putBack shows has done
  refine ⟨.of_store has field ⟨type, content⟩, free, content, took, ?_⟩
  rw [World.shown_store has has, if_pos ⟨rfl, rfl⟩]
  rfl

/-- The handle of a type is a new bean, which is all that its cursor does to the world. -/
theorem runOn_handleCursor (owner : TypeRef) (world : World) :
    (handleCursor owner).runOn world =
      (.ok ⟨.bean (world.add (TypeHandle.bean owner)).1, .bean TypeHandle.type, owner, true,
        false⟩, (world.add (TypeHandle.bean owner)).2) := by
  rw [handleCursor, Access.runOn_bind_of_ok (Access.runOn_ofWorld _ world), Access.runOn_pure]

end PropertyGraph.Accessor
