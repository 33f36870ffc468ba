import PropertyGraph.Proofs.Access.Fields

/-!
# Reads that only look

The getters of a registry may compute what they show, but they leave their beans as they are. Then a
read changes nothing of the world but for the type handles that come in, and two walks over one
world see the same: the same values of it, or handles of the same type, each walk its own.
-/
namespace PropertyGraph

namespace World

variable {world later : World} {ref : BeanRef} {described : TypeRef}

/-- The reference leads to a handle of a type, and no exclusive guard is on it. -/
structure HasHandle (world : World) (ref : BeanRef) (described : TypeRef) : Prop where
  has : world.Has ref
  bean : world.bean ref = TypeHandle.bean described
  free : world.isHeldExclusively ref = false

/-- A handle has the type of handles. -/
theorem HasHandle.type_eq (handle : world.HasHandle ref described) :
    ref.type = TypeHandle.type := by
  rw [← handle.has.bean_type, handle.bean]
  rfl

/-- No guard is on a handle that comes in. -/
theorem hasHandle_add (guarded : ∀ guard ∈ world.guards, guard.index < world.beans.size)
    (evolves : world.EvolvesTo [] later) (described : TypeRef) :
    (later.add (TypeHandle.bean described)).2.HasHandle
      (later.add (TypeHandle.bean described)).1 described where
  has := has_add later _
  bean := bean_add later _
  free := by
    simp only [isHeldExclusively, List.any_eq_false, Bool.and_eq_true, beq_iff_eq, not_and]
    intro guard among here
    have old : guard.index < world.beans.size := guarded guard (evolves.guards ▸ among)
    exact absurd here (Nat.ne_of_lt (lt_size_of_has evolves.has old))

end World

namespace Accessor

/-- The getters only look: they leave their beans alone, and what they show of beans of the world
and of type handles is of the world. Guards are on beans that there are. -/
structure Observes (accessor : Accessor) (world : World) : Prop where
  keeps : ∀ owner label info, accessor.registry.describe? owner label = some info →
    ∀ bean : Bean, bean.type = owner → (info.read bean).2 = bean
  admits : ∀ ref label info value, world.Has ref →
    accessor.registry.describe? ref.type label = some info →
    (info.read (world.bean ref)).1 = .ok value → world.Admits value
  handles : ∀ described label info value,
    accessor.registry.describe? TypeHandle.type label = some info →
    (info.read (TypeHandle.bean described)).1 = .ok value → world.Admits value
  guarded : ∀ guard ∈ world.guards, guard.index < world.beans.size

/-- What two walks over a world have come to, each in the world that it has made of it. -/
inductive Twins (world left right : World) : Value → Value → Prop
  | same (value : Value) : world.Admits value → Twins world left right value value
  | handles (described : TypeRef) (ref other : BeanRef) : left.HasHandle ref described →
    right.HasHandle other described → Twins world left right (.bean ref) (.bean other)

section

variable {accessor : Accessor} {schema : Schema} {world left right : World} {ref : BeanRef}
  {label : String} {info : PropertyInfo} {value other : Value}

/-- Getters of fields only look. -/
theorem observes_of_plain (plain : accessor.registry.Plain schema) (fits : schema.Fits world)
    (guarded : ∀ guard ∈ world.guards, guard.index < world.beans.size) :
    accessor.Observes world where
  keeps owner label info described bean sameType := by
    obtain ⟨field, type, -, shows⟩ := plain.shows _ _ _ described
    cases isGetter : info.getter? with
    | none => simp [PropertyInfo.read, isGetter]
    | some getter => simp [PropertyInfo.read, isGetter, shows.reads getter isGetter bean sameType]
  admits ref label info value has described read := by
    obtain ⟨field, type, typed, shows⟩ := plain.shows _ _ _ described
    obtain ⟨_, -, -, admitted⟩ := fits.shown has typed
    cases isGetter : info.getter? with
    | none => simp [PropertyInfo.read, isGetter] at read
    | some getter =>
      simp only [PropertyInfo.read, isGetter, shows.reads getter isGetter _ has.bean_type,
        Except.ok.injEq] at read
      exact read ▸ admitted
  handles owner label info value described read := by
    obtain ⟨field, type, typed, shows⟩ := plain.shows _ _ _ described
    obtain ⟨rfl, text, found⟩ := Schema.field?_handle typed owner
    cases isGetter : info.getter? with
    | none => simp [PropertyInfo.read, isGetter] at read
    | some getter =>
      simp only [PropertyInfo.read, isGetter,
        shows.reads getter isGetter (TypeHandle.bean owner) rfl, Except.ok.injEq, Bean.fieldValue,
        found, Option.map_some, Option.getD_some, Field.toValue, FieldType.toValue] at read
      exact read ▸ .atomic _ rfl
  guarded := guarded

/-- What a read gives of a bean, under a guard or not. -/
def readOutcome (walked : List Segment) (owner : TypeRef) (info : PropertyInfo) (held : Bool)
    (bean : Bean) : Except AccessError Value :=
  (if held then .error (.borrowed owner.path) else (info.read bean).1).mapError
    (.invocationFailed (Segment.render walked) owner)

/-- A read that gives a value is what the getter gives. -/
theorem ok_of_readOutcome {walked : List Segment} {owner : TypeRef} {held : Bool} {bean : Bean}
    (read : readOutcome walked owner info held bean = .ok value) :
    (info.read bean).1 = .ok value := by
  cases held with
  | true => simp [readOutcome] at read
  | false =>
    cases shown : (info.read bean).1 with
    | error cause => simp [readOutcome, shown] at read
    | ok shown' => simpa [readOutcome, shown] using read

/-- A getter that only looks leaves the world as it is. -/
theorem Observes.runOn_read (observes : accessor.Observes world) (has : left.Has ref)
    (described : accessor.registry.describe? ref.type label = some info) (walked : List Segment) :
    (Access.invoke walked ref (·.read ref info)).runOn left =
      (readOutcome walked ref.type info (left.isHeldExclusively ref) (left.bean ref), left) := by
  have kept := observes.keeps _ _ _ described _ has.bean_type
  rw [Access.runOn_invoke, World.read, readOutcome]
  split
  · rfl
  · change (_, left.putBean ref (info.read (left.bean ref)).2) = _
    rw [kept, World.putBean_bean]

/-- Two walks read the same. -/
theorem Twins.read (observes : accessor.Observes world) (toLeft : world.EvolvesTo [] left)
    (toRight : world.EvolvesTo [] right) (twins : Twins world left right value other)
    (core : value.core = .bean ref) :
    ∃ ref', other.core = .bean ref' ∧ ref'.type = ref.type ∧
      ∀ label info, accessor.registry.describe? ref.type label = some info → ∀ walked,
        ∃ outcome, (Access.invoke walked ref (·.read ref info)).runOn left = (outcome, left) ∧
          (Access.invoke walked ref' (·.read ref' info)).runOn right = (outcome, right) ∧
          ∀ value, outcome = .ok value → world.Admits value := by
  cases twins with
  | same _ admitted =>
    have has : world.Has ref := (core ▸ admitted.core).has
    refine ⟨ref, core, rfl, fun label info described walked => ?_⟩
    refine ⟨_, observes.runOn_read (toLeft.has ref has) described walked, ?_, fun value read => ?_⟩
    · rw [observes.runOn_read (toRight.has ref has) described walked,
        World.isHeldExclusively_of_guards toLeft.guards,
        World.isHeldExclusively_of_guards toRight.guards, toLeft.bean ref has (by simp),
        toRight.bean ref has (by simp)]
    · rw [toLeft.bean ref has (by simp)] at read
      exact observes.admits ref label info value has described (ok_of_readOutcome read)
  | handles described ref₀ ref' here there =>
    obtain rfl : ref₀ = ref := by simpa [Value.core] using core
    have sameType : ref'.type = ref₀.type := there.type_eq.trans here.type_eq.symm
    refine ⟨ref', rfl, sameType, fun label info found walked => ?_⟩
    refine ⟨_, observes.runOn_read here.has found walked, ?_, fun value read => ?_⟩
    · rw [observes.runOn_read there.has (sameType ▸ found) walked, here.free, there.free, here.bean,
        there.bean, sameType]
    · rw [here.bean] at read
      exact observes.handles described label info value (here.type_eq ▸ found)
        (ok_of_readOutcome read)

/-- What one walk has come to is of its own world. -/
theorem Twins.alone (twins : Twins world left right value other) :
    Twins world left left value value := by
  cases twins with
  | same _ admitted => exact .same value admitted
  | handles described ref _ here _ => exact .handles described ref ref here here

/-- Where one walk has come to a bean the other one has come to a bean of the same type. -/
theorem Twins.core (twins : Twins world left right value other) (core : value.core = .bean ref) :
    ∃ ref', other.core = .bean ref' ∧ ref'.type = ref.type := by
  cases twins with
  | same => exact ⟨ref, core, rfl⟩
  | handles described ref₀ ref' here there =>
    obtain rfl : ref₀ = ref := by simpa [Value.core] using core
    exact ⟨ref', rfl, there.type_eq.trans here.type_eq.symm⟩

/-- What is no bean is the same for both walks. -/
theorem Twins.eq_of_core (twins : Twins world left right value other)
    (noBean : ∀ ref, value.core ≠ .bean ref) : other = value ∧ world.Admits value := by
  cases twins with
  | same _ admitted => exact ⟨rfl, admitted⟩
  | handles described ref other here there => exact absurd rfl (noBean ref)

/-! ## Setters have no part in it -/

/-- The property of a name of a type, without its setter if the name and the type are given ones. -/
def withoutSetter (owner : TypeRef) (label : String) (type : TypeRef) (name : String)
    (info : PropertyInfo) : PropertyInfo :=
  if type = owner ∧ name = label then { info with setter? := none } else info

/-- The table in which the property of a name has no setter, if it is the table of the type. -/
def tableWithoutSetter (owner : TypeRef) (label : String) (table : TypeMeta) : TypeMeta :=
  { table with
    slots := table.slots.map fun entry =>
      (entry.1, withoutSetter owner label table.type entry.1 entry.2) }

/-- The accessor in whose registry the property of a name of a type has no setter. -/
def reading (accessor : Accessor) (owner : TypeRef) (label : String) : Accessor :=
  { accessor with registry := { accessor.registry with
      tables := accessor.registry.tables.map (tableWithoutSetter owner label) } }

/-- A table that lacks a setter is read as the whole table is. -/
theorem read_of_tableWithoutSetter {owner : TypeRef} {label name : String} {table : TypeMeta}
    (found : (tableWithoutSetter owner label table).resolve? name = some info) :
    ∃ info', table.resolve? name = some info' ∧ info'.read = info.read := by
  have looked : ∀ name, (tableWithoutSetter owner label table).property? name =
      (table.property? name).map (withoutSetter owner label table.type name) :=
    lookup_map table.slots (withoutSetter owner label table.type)
  have kept : ∀ name info, (tableWithoutSetter owner label table).property? name = some info →
      ∃ info', table.property? name = some info' ∧ info'.read = info.read := by
    intro name info found
    obtain ⟨info', found', rfl⟩ := Option.map_eq_some_iff.1 ((looked name).symm.trans found)
    refine ⟨info', found', ?_⟩
    rw [withoutSetter]
    split <;> rfl
  rw [TypeMeta.resolve?, Option.or_eq_some_iff] at found
  rcases found with found | ⟨missing, found⟩
  · obtain ⟨info', found', same⟩ := kept name info found
    exact ⟨info', by rw [TypeMeta.resolve?, found', Option.some_or], same⟩
  · obtain ⟨property, aliased, found⟩ := Option.bind_eq_some_iff.1 found
    obtain ⟨info', found', same⟩ := kept property info found
    rw [looked, Option.map_eq_none_iff] at missing
    refine ⟨info', ?_, same⟩
    rw [TypeMeta.resolve?, missing, Option.none_or]
    exact Option.bind_eq_some_iff.2 ⟨property, aliased, found'⟩

/-- A property that has lost its setter is read as before. -/
theorem read_of_reading {owner type : TypeRef} {name : String}
    (described : (accessor.reading owner label).registry.describe? type name = some info) :
    ∃ info', accessor.registry.describe? type name = some info' ∧ info'.read = info.read := by
  simp only [Registry.describe?, Registry.get?, reading, List.find?_map] at described ⊢
  obtain ⟨_, found, resolved⟩ := Option.bind_eq_some_iff.1 described
  obtain ⟨table, found', rfl⟩ := Option.map_eq_some_iff.1 found
  obtain ⟨info', resolved', same⟩ := read_of_tableWithoutSetter resolved
  exact ⟨info', Option.bind_eq_some_iff.2 ⟨table, found', resolved'⟩, same⟩

/-- Getters that only look do so whatever can be written. -/
theorem Observes.reading (observes : accessor.Observes world) (owner : TypeRef) (label : String) :
    (accessor.reading owner label).Observes world where
  keeps type name info described bean sameType := by
    obtain ⟨info', described', same⟩ := read_of_reading described
    exact same ▸ observes.keeps type name info' described' bean sameType
  admits ref name info value has described read := by
    obtain ⟨info', described', same⟩ := read_of_reading described
    exact observes.admits ref name info' value has described' (same ▸ read)
  handles type name info value described read := by
    obtain ⟨info', described', same⟩ := read_of_reading described
    exact observes.handles type name info' value described' (same ▸ read)
  guarded := observes.guarded

end

end Accessor

end PropertyGraph
