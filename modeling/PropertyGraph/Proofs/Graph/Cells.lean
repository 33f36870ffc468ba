import PropertyGraph.Graph.World

/-!
# Cells of a world

A cell is a field of a bean. A bean can only be reached through a reference that leads to it; then
its type is the type of the reference, and what is stored in one cell is seen in that cell alone.
Writes keep the guards and every reference, and are told apart by the beans that they change.
-/
namespace PropertyGraph

namespace Bean

/-- A field that was replaced is seen under its name alone. -/
theorem field?_withField (bean : Bean) (name : String) (field : Field) (other : String) :
    (bean.withField name field).field? other =
      if other = name then some field else bean.field? other :=
  NameTable.lookup_put bean.fields name field other

/-- Nothing changes when a field is replaced by what it is. -/
theorem withField_eq_self {bean : Bean} {name : String} {field : Field}
    (found : bean.field? name = some field) : bean.withField name field = bean := by
  have same : ∀ fields : NameTable Field, fields.lookup name = some field →
      fields.put name field = fields := by
    intro fields found
    induction fields with
    | nil => simp at found
    | cons entry rest ih =>
      obtain ⟨first, old⟩ := entry
      by_cases here : first = name
      · obtain rfl : old = field := by simpa [here] using found
        simp [NameTable.put, here]
      · rw [List.lookup_cons, beq_false_of_ne (Ne.symm here)] at found
        simp [NameTable.put, here, ih found]
  rw [withField, same bean.fields found]

/-- A field that is replaced twice is replaced by the second content. -/
theorem withField_withField (bean : Bean) (name : String) (field last : Field) :
    (bean.withField name field).withField name last = bean.withField name last := by
  have same : ∀ fields : NameTable Field,
      (fields.put name field).put name last = fields.put name last := by
    intro fields
    induction fields with
    | nil => simp [NameTable.put]
    | cons entry rest ih =>
      obtain ⟨first, old⟩ := entry
      by_cases here : first = name
      · simp [NameTable.put, here]
      · simp [NameTable.put, here, ih]
  simp only [withField, same bean.fields]

end Bean

namespace World

/-- The reference leads to a bean, which is of the type of the reference. -/
def Has (world : World) (ref : BeanRef) : Prop :=
  ∃ bean, world.beans[ref.index]? = some bean ∧ bean.type = ref.type

/-- Puts a content into a field of a bean. -/
def store (world : World) (ref : BeanRef) (name : String) (field : Field) : World :=
  world.modifyBean ref (·.withField name field)

/-- What a cell holds. -/
def cell? (world : World) (ref : BeanRef) (name : String) : Option Field :=
  (world.bean ref).field? name

/-- The value that a cell shows. -/
def shown (world : World) (ref : BeanRef) (name : String) : Value :=
  (world.bean ref).fieldValue name

/-- The world has become another one in which the guards, every reference and every bean that is
not among the changed ones are the same. New beans may have come in. -/
structure EvolvesTo (world : World) (changed : List BeanRef) (later : World) : Prop where
  guards : later.guards = world.guards
  has : ∀ ref, world.Has ref → later.Has ref
  bean : ∀ ref, world.Has ref → ref ∉ changed → later.bean ref = world.bean ref

/-- Guards are on beans that there are. -/
def Guarded (world : World) : Prop :=
  ∀ guard ∈ world.guards, guard.index < world.beans.size

section

variable {world middle later : World} {ref other : BeanRef} {changed further : List BeanRef}

/-- The bean that a reference leads to has the type of the reference. -/
theorem Has.bean_type (has : world.Has ref) : (world.bean ref).type = ref.type := by
  obtain ⟨bean, found, same⟩ := has
  simp [World.bean, found, same]

/-- References that lead to beans differ only if their places do. -/
theorem Has.index_ne (has : world.Has ref) (hasOther : world.Has other) (different : ref ≠ other) :
    ref.index ≠ other.index := by
  intro sameIndex
  obtain ⟨bean, found, same⟩ := has
  obtain ⟨bean', found', same'⟩ := hasOther
  rw [sameIndex, found'] at found
  have sameBean : bean' = bean := Option.some.inj found
  have sameType : ref.type = other.type := by rw [← same, ← same', sameBean]
  obtain ⟨index, type⟩ := ref
  obtain ⟨index', type'⟩ := other
  simp_all

/-- A bean that is put stands in the place of its reference, if the world has that place. -/
theorem beans_putBean (bean : Bean) (index : Nat) :
    (world.putBean ref bean).beans[index]? =
      if ref.index = index ∧ index < world.beans.size then some bean
      else world.beans[index]? := by
  simp only [putBean, Array.getElem?_setIfInBounds]
  by_cases same : ref.index = index
  · subst same
    by_cases inside : ref.index < world.beans.size
    · simp [inside]
    · simp [inside]
  · simp [same]

/-- A bean that is put is found. -/
theorem bean_putBean_self (has : world.Has ref) (bean : Bean) :
    (world.putBean ref bean).bean ref = bean := by
  obtain ⟨old, found, -⟩ := has
  have inside : ref.index < world.beans.size := (Array.getElem?_eq_some_iff.1 found).1
  simp [World.bean, beans_putBean, inside]

/-- Other beans are left by a put. -/
theorem bean_putBean_of_ne (has : world.Has ref) (hasOther : world.Has other)
    (different : other ≠ ref) (bean : Bean) :
    (world.putBean ref bean).bean other = world.bean other := by
  have places : ref.index ≠ other.index := has.index_ne hasOther different.symm
  simp [World.bean, beans_putBean, places]

/-- Nothing changes when a bean is put back where it is. -/
theorem putBean_bean (world : World) (ref : BeanRef) :
    world.putBean ref (world.bean ref) = world := by
  have same : world.beans.setIfInBounds ref.index (world.bean ref) = world.beans := by
    apply Array.ext_getElem?
    intro index
    simp only [Array.getElem?_setIfInBounds, World.bean]
    by_cases place : ref.index = index
    · subst place
      by_cases inside : ref.index < world.beans.size
      · simp [inside]
      · simp [inside]
    · simp [place]
  simp only [putBean, same]

/-- A bean that is put in place of one of its type leaves the references good. -/
theorem has_putBean_iff (bean : Bean) (same : bean.type = ref.type) (has : world.Has ref)
    (other : BeanRef) : (world.putBean ref bean).Has other ↔ world.Has other := by
  obtain ⟨old, found, type⟩ := has
  have inside : ref.index < world.beans.size := (Array.getElem?_eq_some_iff.1 found).1
  simp only [Has, beans_putBean]
  by_cases place : ref.index = other.index
  · rw [← place]
    simp only [inside, and_self, ↓reduceIte, Option.some.injEq, exists_eq_left', same, found, type]
  · simp [place]

/-! ## Storing -/

/-- What is stored is in the field of its bean. -/
theorem bean_store_self (has : world.Has ref) (name : String) (field : Field) :
    (world.store ref name field).bean ref = (world.bean ref).withField name field :=
  bean_putBean_self has _

/-- Other beans are left by a store. -/
theorem bean_store_of_ne (has : world.Has ref) (hasOther : world.Has other)
    (different : other ≠ ref) (name : String) (field : Field) :
    (world.store ref name field).bean other = world.bean other :=
  bean_putBean_of_ne has hasOther different _

/-- A store leaves the references good. -/
theorem has_store_iff (has : world.Has ref) (name : String) (field : Field) (other : BeanRef) :
    (world.store ref name field).Has other ↔ world.Has other :=
  has_putBean_iff ((world.bean ref).withField name field) has.bean_type has other

/-- What is stored in a cell is seen in that cell alone. -/
theorem cell?_store (has : world.Has ref) (hasOther : world.Has other) (name : String)
    (field : Field) (name' : String) :
    (world.store ref name field).cell? other name' =
      if other = ref ∧ name' = name then some field else world.cell? other name' := by
  by_cases same : other = ref
  · subst same
    simp [cell?, bean_store_self has, Bean.field?_withField]
  · simp [cell?, bean_store_of_ne has hasOther same, same]

/-- Nothing changes when a cell takes what it holds. -/
theorem store_eq_self {name : String} {field : Field}
    (found : world.cell? ref name = some field) : world.store ref name field = world := by
  rw [store, modifyBean, Bean.withField_eq_self found, putBean_bean]

/-- A cell that takes back what it held before leaves no trace of what it held between. -/
theorem store_store_eq_self (has : world.Has ref) {name : String} {old : Field} (field : Field)
    (found : world.cell? ref name = some old) :
    (world.store ref name field).store ref name old = world := by
  have again : ((world.bean ref).withField name field).withField name old = world.bean ref := by
    rw [Bean.withField_withField, Bean.withField_eq_self found]
  rw [store, modifyBean, bean_store_self has, again, store, modifyBean, putBean, putBean,
    Array.setIfInBounds_setIfInBounds]
  exact putBean_bean world ref

/-- A cell shows what it holds. -/
theorem shown_eq (world : World) (ref : BeanRef) (name : String) :
    world.shown ref name = ((world.cell? ref name).map Field.toValue).getD .null :=
  rfl

/-- What is stored in a cell is shown by that cell alone. -/
theorem shown_store (has : world.Has ref) (hasOther : world.Has other) (name : String)
    (field : Field) (name' : String) :
    (world.store ref name field).shown other name' =
      if other = ref ∧ name' = name then field.toValue else world.shown other name' := by
  simp only [shown_eq, cell?_store has hasOther]
  by_cases same : other = ref ∧ name' = name
  · simp [same]
  · simp [same]

/-! ## Guards -/

/-- The same guards hold the same beans exclusively. -/
theorem isHeldExclusively_of_guards {other : World} (same : other.guards = world.guards)
    (ref : BeanRef) : other.isHeldExclusively ref = world.isHeldExclusively ref := by
  simp only [isHeldExclusively, same]

/-- Whether a property takes a value depends on its bean and on the guards. -/
theorem write_fst_of_bean {other : World} (guards : other.guards = world.guards)
    (same : other.bean ref = world.bean ref) {info : PropertyInfo} {value : Value} :
    (other.write ref info value).1 = (world.write ref info value).1 := by
  have sameHeld : other.isHeld ref = world.isHeld ref := by simp only [isHeld, guards]
  rw [World.write, World.write, sameHeld, same, apply_ite Prod.fst, apply_ite Prod.fst]

/-- A bean that is not held is not held exclusively. -/
theorem not_isHeldExclusively (free : world.isHeld ref = false) :
    world.isHeldExclusively ref = false := by
  simp only [isHeld, List.any_eq_false] at free
  simp only [isHeldExclusively, List.any_eq_false, Bool.and_eq_true, not_and]
  exact fun guard among here => absurd here (free guard among)

/-- A place of the world is one of every world that has its beans. -/
theorem lt_size_of_has (kept : ∀ ref, world.Has ref → later.Has ref) {index : Nat}
    (inside : index < world.beans.size) : index < later.beans.size := by
  have has : world.Has ⟨index, world.beans[index].type⟩ :=
    ⟨world.beans[index], Array.getElem?_eq_getElem inside, rfl⟩
  obtain ⟨bean, found, -⟩ := kept _ has
  exact (Array.getElem?_eq_some_iff.1 found).1

/-- Guards stay on beans that there are. -/
theorem Guarded.mono (guarded : world.Guarded) (same : later.guards = world.guards)
    (kept : ∀ ref, world.Has ref → later.Has ref) : later.Guarded :=
  fun guard among => lt_size_of_has kept (guarded guard (same ▸ among))

/-! ## Evolution -/

namespace EvolvesTo

/-- A world evolves to itself. -/
theorem refl (world : World) (changed : List BeanRef) : world.EvolvesTo changed world :=
  ⟨rfl, fun _ has => has, fun _ _ _ => rfl⟩

/-- More beans may be said to have changed. -/
theorem mono (evolves : world.EvolvesTo changed later) (within : changed ⊆ further) :
    world.EvolvesTo further later :=
  ⟨evolves.guards, evolves.has, fun ref has untouched =>
    evolves.bean ref has fun among => untouched (within among)⟩

/-- What changes in two steps is among what each of them changes. -/
theorem trans (first : world.EvolvesTo changed middle) (second : middle.EvolvesTo changed later) :
    world.EvolvesTo changed later where
  guards := second.guards.trans first.guards
  has ref has := second.has ref (first.has ref has)
  bean ref has untouched :=
    (second.bean ref (first.has ref has) untouched).trans (first.bean ref has untouched)

/-- The cells of a bean that has not changed hold what they held. -/
theorem cell? (evolves : world.EvolvesTo changed later) (has : world.Has ref)
    (untouched : ref ∉ changed) (name : String) : later.cell? ref name = world.cell? ref name := by
  simp only [World.cell?, evolves.bean ref has untouched]

/-- The cells of a bean that has not changed show what they showed. -/
theorem shown (evolves : world.EvolvesTo changed later) (has : world.Has ref)
    (untouched : ref ∉ changed) (name : String) : later.shown ref name = world.shown ref name := by
  simp only [World.shown, evolves.bean ref has untouched]

/-- A store changes the bean that has the cell. -/
theorem of_store (has : world.Has ref) (name : String) (field : Field) :
    world.EvolvesTo [ref] (world.store ref name field) where
  guards := rfl
  has other hasOther := (has_store_iff has name field other).2 hasOther
  bean other hasOther untouched :=
    bean_store_of_ne has hasOther (by simpa using untouched) name field

/-- What is stored in a world and in what the world has become changes nothing between them. -/
theorem store (evolves : world.EvolvesTo changed later) (has : world.Has ref) (name : String)
    (field : Field) :
    (world.store ref name field).EvolvesTo changed (later.store ref name field) where
  guards := evolves.guards
  has other hasOther := (has_store_iff (evolves.has ref has) name field other).2
    (evolves.has other ((has_store_iff has name field other).1 hasOther))
  bean other hasOther untouched := by
    have hasFirst := (has_store_iff has name field other).1 hasOther
    by_cases same : other = ref
    · subst same
      rw [bean_store_self has, bean_store_self (evolves.has other has),
        evolves.bean other has untouched]
    · rw [bean_store_of_ne has hasFirst same,
        bean_store_of_ne (evolves.has ref has) (evolves.has other hasFirst) same,
        evolves.bean other hasFirst untouched]

/-- A new bean changes no other. -/
theorem of_add (world : World) (bean : Bean) : world.EvolvesTo [] (world.add bean).2 := by
  have kept : ∀ ref, world.Has ref →
      (world.beans.push bean)[ref.index]? = world.beans[ref.index]? := by
    intro ref has
    obtain ⟨old, found, -⟩ := has
    have inside : ref.index < world.beans.size := (Array.getElem?_eq_some_iff.1 found).1
    rw [Array.getElem?_push, if_neg (Nat.ne_of_lt inside)]
  refine ⟨rfl, ?_, ?_⟩
  · intro ref has
    simpa only [Has, add, kept ref has] using has
  · intro ref has _
    simp only [World.bean, add, kept ref has]

/-- A record changes no bean. -/
theorem of_record (world : World) (entry : LogRecord) : world.EvolvesTo [] (world.record entry) :=
  ⟨rfl, fun _ has => has, fun _ _ _ => rfl⟩

end EvolvesTo

/-- The reference that an addition gives leads to the new bean. -/
theorem has_add (world : World) (bean : Bean) : (world.add bean).2.Has (world.add bean).1 :=
  ⟨bean, by simp [add], rfl⟩

/-- The bean that is added is found. -/
theorem bean_add (world : World) (bean : Bean) :
    (world.add bean).2.bean (world.add bean).1 = bean := by
  simp [World.bean, add]

end

end World

end PropertyGraph
