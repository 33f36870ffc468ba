import PropertyGraph.Proofs.Field.Stores
import PropertyGraph.Proofs.Write.Walk

/-!
# Making absent values

What a write makes on its way: beans of the types that have constructors, empty lists and maps, and
the elements that the extension of a list skips. All of it comes in beside what is there. Only
where a value is made for a property does a bean change, and then in that property alone.
-/
namespace PropertyGraph

/-- A field shows nothing that the world does not admit if it took nothing of that kind. -/
theorem FieldType.Stores.admits {world : World} {type : FieldType} {taken shown : Value}
    (stores : type.Stores taken shown) (admitted : world.Admits taken) : world.Admits shown := by
  induction type generalizing taken shown with
  | value => exact stores.of_value ▸ admitted
  | option content ih =>
    rcases stores.of_option with ⟨-, rfl⟩ | ⟨inner, shownInner, core, rfl, inside⟩
    · exact .atomic _ rfl
    · exact .optSome shownInner (ih inside (.of_core (core ▸ admitted.core)))
  | list element ih =>
    obtain ⟨items, shownItems, rfl, rfl, each⟩ := stores.of_list
    refine .list _ fun item among => ?_
    obtain ⟨index, bounded, rfl⟩ := List.getElem_of_mem among
    have bounded' : index < items.length := each.length_eq ▸ bounded
    exact ih (each.get bounded' bounded) (admitted.item (List.getElem_mem bounded'))
  | map element ih =>
    obtain ⟨entries, shownEntries, rfl, rfl, each⟩ := stores.of_map
    have sameKeys : entries.map (·.1) = shownEntries.map (·.1) := by
      rw [← List.forall₂_eq_eq_eq, List.forall₂_map_left_iff, List.forall₂_map_right_iff]
      exact each.imp fun _ _ related => related.1
    have ordered : Entries.Ordered shownEntries := by
      have keys : (entries.map (·.1)).Pairwise (· < ·) := List.pairwise_map.2 admitted.ordered
      exact List.pairwise_map.1 (sameKeys ▸ keys)
    refine .map _ ordered fun entry among => ?_
    obtain ⟨index, bounded, rfl⟩ := List.getElem_of_mem among
    have bounded' : index < entries.length := each.length_eq ▸ bounded
    exact ih (each.get bounded' bounded).2 (admitted.entry (List.getElem_mem bounded'))
  | anyBean =>
    obtain ⟨ref, took, rfl⟩ := stores
    cases taken with
    | bean other => exact .bean ref (Except.ok.inj took ▸ admitted.has)
    | _ => simp [ofValue, ofAnyBean] at took
  | bean owner =>
    obtain ⟨held, took, rfl⟩ := stores
    cases taken with
    | bean other =>
      by_cases same : other.type = owner
      · obtain rfl : ⟨other, same⟩ = held := by simpa [ofValue, ofBean, same] using took
        exact .bean other admitted.has
      · simp [ofValue, ofBean, same] at took
    | _ => simp [ofValue, ofBean] at took
  | _ =>
    obtain ⟨content, took, rfl⟩ := stores
    exact .atomic _ rfl

namespace Accessor

open Access (AddsOn)

variable {accessor : Accessor} {schema : Schema} {request : WriteRequest} {world : World}

/-- Every constructor of the registry makes beans of the schema. -/
def Constructs (accessor : Accessor) (schema : Schema) : Prop :=
  ∀ type make, accessor.registry.constructor? type = .ok make → schema.Makes make

/-- A constructor adds what it gives. -/
theorem construct_adds (makes : accessor.Constructs schema) (fits : schema.Fits world)
    (walked : List Segment) (owner type : TypeRef) :
    AddsOn schema (accessor.construct walked owner type) world
      fun value after => after.Admits value := by
  simp only [construct]
  split
  · next make found =>
    obtain ⟨evolves, has, fits⟩ := makes type make found world fits
    exact .bind (fun ref after => after.Has ref)
      ⟨_, _, Access.runOn_ofWorld make world, evolves, fits, fun ref same => by
        obtain rfl := Except.ok.inj same
        exact has⟩
      fun ref middle _ fits has => .pure fits (.bean ref has)
  · exact .throw fits _

/-- What is made for an absent value is good. -/
theorem grow_adds (makes : accessor.Constructs schema) (fits : schema.Fits world)
    (walked : List Segment) (owner : TypeRef) (declared : DeclaredType) :
    AddsOn schema (accessor.grow walked owner declared) world
      fun value after => after.Admits value := by
  have finish : ∀ value middle, world.EvolvesTo [] middle → schema.Fits middle →
      middle.Admits value →
      AddsOn schema (do
        Access.record (.grown (Segment.render walked) declared.unwrapped)
        return if declared.isOptional then .optSome value else value) middle
        fun value after => after.Admits value := by
    intro value middle _ fits admitted
    refine .bind (fun _ after => after.Admits value)
      (.record fits _ (admitted.mono fun _ has => has)) ?_
    intro _ after _ fits admitted
    refine .pure fits ?_
    split
    · exact .optSome value admitted
    · exact admitted
  simp only [grow]
  split
  · exact .bind _ (construct_adds makes fits walked owner _) finish
  · exact .bind _ (.pure fits (.list [] (by simp))) finish
  · exact .bind _ (.pure fits (.map [] .nil (by simp))) finish
  · exact .bind _ (.throw fits _) finish

/-- What is made for a skipped element is good. -/
theorem filler_adds (makes : accessor.Constructs schema) (fits : schema.Fits world)
    (walked : List Segment) (owner : TypeRef) (element : DeclaredType) :
    AddsOn schema (accessor.filler walked owner element) world
      fun value after => after.Admits value := by
  cases element with
  | enum info => exact grow_adds makes fits walked owner (.enum info)
  | list element => exact grow_adds makes fits walked owner (.list element)
  | map element => exact grow_adds makes fits walked owner (.map element)
  | bean type => exact grow_adds makes fits walked owner (.bean type)
  | _ => exact .pure fits (.atomic _ rfl)

/-- What is made for the skipped elements is good. -/
theorem fillers_adds (makes : accessor.Constructs schema) (walked : List Segment)
    (owner : TypeRef) (element : DeclaredType) (count : Nat) :
    ∀ world, schema.Fits world → AddsOn schema (accessor.fillers walked owner element count) world
      fun skipped after => ∀ item ∈ skipped, after.Admits item := by
  induction count with
  | zero =>
    intro world fits
    exact .pure fits (by simp)
  | succ count ih =>
    intro world fits
    refine .bind _ (filler_adds makes fits walked owner element) ?_
    intro first middle _ fits admitted
    refine .bind _ (ih middle fits) ?_
    intro rest after evolves fits each
    refine .pure fits fun item among => ?_
    rcases List.mem_cons.1 among with rfl | among
    · exact admitted.mono evolves.has
    · exact each item among

/-- The extended list is good where the list was. -/
theorem extendTo_adds (makes : accessor.Constructs schema) (fits : schema.Fits world)
    (before : List Segment) (segment : Segment) (owner : TypeRef) (element : DeclaredType)
    (index : Nat) {items : List Value} (admitted : ∀ item ∈ items, world.Admits item) :
    AddsOn schema (accessor.extendTo request before segment owner element index items) world
      fun extended after => ∀ item ∈ extended, after.Admits item := by
  by_cases inside : index < items.length
  · simp only [extendTo, inside, ↓reduceIte]
    exact .pure fits admitted
  simp only [extendTo, inside, ↓reduceIte]
  split
  · exact .throw fits _
  split
  · exact .throw fits _
  refine .bind (fun _ after => ∀ item ∈ items, after.Admits item)
    (.record fits _ fun item among => (admitted item among).mono fun _ has => has) ?_
  intro _ middle _ fits admitted
  refine .bind _ (fillers_adds makes _ _ _ _ middle fits) ?_
  intro skipped after evolves fits each
  refine .pure fits fun item among => ?_
  simp only [List.mem_append, List.mem_singleton] at among
  rcases among with (among | among) | rfl
  · exact (admitted item among).mono evolves.has
  · exact each item among
  · exact .atomic _ rfl

/-- What a slot is entered with is good where the slot was. -/
theorem enterSlot_adds (makes : accessor.Constructs schema) (fits : schema.Fits world)
    (walked : List Segment) (owner : TypeRef) (element : DeclaredType) {slot : Value}
    (admitted : world.Admits slot) :
    AddsOn schema (accessor.enterSlot request walked owner element slot) world
      fun child after => after.Admits child := by
  simp only [enterSlot, growIfAllowed]
  split
  · split
    · exact grow_adds makes fits walked owner element
    · exact .throw fits _
  · exact .pure fits admitted

/-- A property is entered at the value that it shows, or at one that was made for it and stored. -/
theorem enters_shown (makes : accessor.Constructs schema) (fits : schema.Fits world)
    {ref : BeanRef} {info : PropertyInfo} {field : String} {type : FieldType}
    (typed : schema.field? ref.type field = some type)
    (shows : info.ShowsField ref.type field type) (readable : info.isReadable = true)
    (has : world.Has ref) {walked : List Segment} {child : Value} {entered : World}
    (enters : (accessor.enter request walked ref info).runOn world = (.ok child, entered)) :
    world.EvolvesTo [ref] entered ∧ schema.Fits entered ∧ entered.Admits child ∧
      world.isHeldExclusively ref = false ∧
      (child = entered.shown ref field ∨ type.Stores child (entered.shown ref field)) := by
  have read := runOn_read shows readable has walked
  by_cases held : world.isHeldExclusively ref
  · rw [if_pos held] at read
    rw [enter, Access.runOn_bind_of_error read] at enters
    simp at enters
  rw [if_neg held] at read
  have free : world.isHeldExclusively ref = false := by simpa using held
  obtain ⟨_, -, -, admitted⟩ := fits.shown has typed
  rw [enter, Access.runOn_bind_of_ok read] at enters
  by_cases absent : (world.shown ref field).isAbsent
  · simp only [absent, ↓reduceIte] at enters
    obtain ⟨grown, middle, grew, enters⟩ := Access.runOn_bind_eq_ok_iff.1 enters
    obtain ⟨_, last, puts, enters⟩ := Access.runOn_bind_eq_ok_iff.1 enters
    obtain ⟨rfl, rfl⟩ : grown = child ∧ last = entered := by simpa using enters
    have grows : AddsOn schema (accessor.growIfAllowed request walked ref.type info.type) world
        fun value after => after.Admits value := by
      simp only [growIfAllowed]
      split
      · exact grow_adds makes fits walked ref.type info.type
      · exact .throw fits _
    obtain ⟨evolves, fitsMiddle, told⟩ := grows.of_run grew
    have admittedGrown := told grown rfl
    have hasMiddle := evolves.has ref has
    obtain ⟨content, took, -, rfl⟩ := eq_store_of_putBack shows hasMiddle puts
    have stores : type.Stores grown (type.toValue content) := ⟨content, took, rfl⟩
    have evolves' := World.EvolvesTo.of_store hasMiddle field ⟨type, content⟩
    refine ⟨(evolves.mono (by simp)).trans evolves',
      fitsMiddle.of_store hasMiddle typed content (stores.admits admittedGrown),
      admittedGrown.mono evolves'.has, free, .inr ?_⟩
    rw [World.shown_store hasMiddle hasMiddle, if_pos ⟨rfl, rfl⟩]
    exact stores
  · simp only [absent, Bool.false_eq_true, ↓reduceIte] at enters
    obtain ⟨rfl, rfl⟩ : world.shown ref field = child ∧ world = entered := by simpa using enters
    exact ⟨.refl _ _, fits, admitted, free, .inl rfl⟩

/-- A slot that a key opens holds a value of the world. -/
theorem Opens.adds (makes : accessor.Constructs schema) (fits : schema.Fits world)
    {before : List Segment} {segment : Segment} {holder slot : Value} {rebuild : Value → Value}
    {declared : DeclaredType} {owner : TypeRef} {middle : World} (admitted : world.Admits holder)
    (opens : accessor.Opens request before holder declared owner world segment slot rebuild
      middle) :
    world.EvolvesTo [] middle ∧ schema.Fits middle ∧ middle.Admits slot := by
  have inside := admitted.core
  cases opens with
  | list key quoted items extended index middle core isIndex lengthens =>
    have each : ∀ item ∈ items, world.Admits item := fun item among => (core ▸ inside).item among
    obtain ⟨evolves, fitsMiddle, told⟩ := (extendTo_adds makes fits before (.key key quoted) owner
      declared.element index each).of_run lengthens
    refine ⟨evolves, fitsMiddle, ?_⟩
    cases found : extended[index]? with
    | none => exact .atomic _ rfl
    | some slot => exact told extended rfl slot (List.mem_of_getElem? found)
  | map key quoted entries core =>
    refine ⟨.refl _ _, fits, ?_⟩
    cases found : Entries.find? key entries with
    | none => exact .atomic _ rfl
    | some slot => exact (core ▸ inside).entry (Entries.mem_of_find? found)

end Accessor

end PropertyGraph
