import PropertyGraph.Proofs.Convert.Passage
import PropertyGraph.Proofs.Field.Shown
import PropertyGraph.Proofs.Write.Foretold

/-!
# Writing back what was read

A value that was read goes back to where it came from, through the conversion and through the
collections on the way, and every cell then shows what it showed before. Reading takes all optionals
off, and the conversion puts on as many as the declared type has. So the value has to be held inside
just as many of them: a field of any value that holds an optional is changed.
-/
namespace PropertyGraph

/-- In every type of a field the variants of an enum have names of their own. -/
def Schema.HasDistinctVariants (schema : Schema) : Prop :=
  ∀ owner field type, schema.field? owner field = some type → type.hasDistinctVariants = true

namespace World

/-- Every cell shows what it shows in another world, and the guards are those of that world. -/
structure Mirrors (later world : World) : Prop where
  guards : later.guards = world.guards
  has : ∀ ref, world.Has ref → later.Has ref
  shown : ∀ ref field, world.Has ref → later.shown ref field = world.shown ref field

variable {world middle : World} {ref : BeanRef} {name : String} {field : Field}

/-- A world mirrors itself. -/
theorem Mirrors.refl (world : World) : world.Mirrors world :=
  ⟨rfl, fun _ has => has, fun _ _ _ => rfl⟩

/-- A cell may take what shows as the same value. -/
theorem Mirrors.store (mirrors : middle.Mirrors world) (has : world.Has ref)
    (same : field.toValue = world.shown ref name) :
    (middle.store ref name field).Mirrors world where
  guards := mirrors.guards
  has other hasOther :=
    (has_store_iff (mirrors.has ref has) name field other).2 (mirrors.has other hasOther)
  shown other name' hasOther := by
    rw [shown_store (mirrors.has ref has) (mirrors.has other hasOther), mirrors.shown other name'
      hasOther]
    split
    case isTrue here => rw [same, here.1, here.2]
    case isFalse => rfl

end World

namespace Accessor

/-- The put hands back what its property shows, and nothing is in the way of it. -/
structure HandsBack (accessor : Accessor) (world : World) (put : Put) : Prop where
  has : world.Has put.ref
  described : ∃ label, accessor.registry.describe? put.ref.type label = some put.info
  writable : put.info.isWritable = true
  free : world.isHeld put.ref = false
  value : ∀ field type, put.info.ShowsField put.ref.type field type →
    put.value = world.shown put.ref field

/-- What is known of the plan to write a path that ends in a name: the value goes into the property
of that name, and the collections that were passed go back. If the path can be read, the read brings
nothing into the world. -/
structure EndsInName (accessor : Accessor) (request : WriteRequest) (world : World) (root : BeanRef)
    (path : PropertyPath) (front : List Segment) (label : String) (plan : Plan) (ref : BeanRef)
    (info : PropertyInfo) (pending : List Put) : Prop where
  planned : (accessor.planPath request root path).runOn world = (.ok plan, world)
  target : plan.target = info.type
  names : accessor.Names world root path.segments front label [] ref info
  has : world.Has ref
  writable : info.isWritable = true
  puts : ∀ value, plan.puts value = ⟨front ++ [.name label], ref, info, value⟩ :: pending
  putsBack : ∀ put ∈ pending, accessor.PutsBack world root [] front put
  reads : ∀ value after, (accessor.get root path).runOn world = (.ok value, after) →
    after = world ∧ info.isReadable = true ∧ ∀ field type, info.ShowsField ref.type field type →
      value = (world.shown ref field).unwrapped

section

variable {accessor : Accessor} {schema : Schema} {request : WriteRequest}
  {world start left right : World} {root ref : BeanRef} {path : PropertyPath}
  {options : AccessOptions} {before front : List Segment} {label : String}

/-! ## Carrying out what hands back -/

/-- What is handed back is stored as a content that shows the same. It is the same content if
variants have names of their own. -/
theorem HandsBack.run (derived : accessor.registry.Derived schema) (fits : schema.Fits world)
    {put : Put} (handsBack : accessor.HandsBack world put) {changed : List BeanRef}
    {middle : World} (evolves : world.EvolvesTo changed middle) :
    ∃ name cell, (putBack put.walked put.ref put.info put.value).runOn middle =
        (.ok (), middle.store put.ref name cell) ∧ cell.toValue = world.shown put.ref name ∧
      (schema.HasDistinctVariants → world.cell? put.ref name = some cell) := by
  obtain ⟨label, described⟩ := handsBack.described
  obtain ⟨field, type, typed, isField⟩ := derived.isField _ _ _ described
  obtain ⟨content, cell, shown, -⟩ := fits.shown handsBack.has typed
  have value : put.value = type.toValue content :=
    (handsBack.value field type isField.toShowsField).trans shown
  obtain ⟨again, took, shows⟩ := type.stores_toValue content
  have free : middle.isHeld put.ref = false := by
    simpa only [World.isHeld, evolves.guards] using handsBack.free
  refine ⟨field, ⟨type, again⟩, ?_, shows.trans shown.symm, fun distinct => ?_⟩
  · exact runOn_putBack_of_isField isField (evolves.has _ handsBack.has) handsBack.writable free
      (value ▸ took) put.walked
  · have same := FieldType.ofValue_toValue_of_distinct (distinct _ _ _ typed) content
    obtain rfl : content = again := Except.ok.inj (same.symm.trans took)
    exact cell

/-- A row of puts that hand back succeeds and is not seen in what the world shows. -/
theorem putAll_handsBack (derived : accessor.registry.Derived schema) (fits : schema.Fits world)
    {puts : List Put} (handsBack : ∀ put ∈ puts, accessor.HandsBack world put)
    {changed : List BeanRef} {middle : World} (evolves : world.EvolvesTo changed middle) :
    ∃ later, (putAll puts).runOn middle = (.ok (), later) ∧
      (middle.Mirrors world → later.Mirrors world) ∧
      (schema.HasDistinctVariants → middle = world → later = world) := by
  induction puts generalizing changed middle with
  | nil => exact ⟨middle, rfl, id, fun _ => id⟩
  | cons put puts ih =>
    have here := handsBack put List.mem_cons_self
    obtain ⟨name, cell, stored, shows, same⟩ := here.run derived fits evolves
    have further : world.EvolvesTo (put.ref :: changed) (middle.store put.ref name cell) :=
      (evolves.mono (by simp)).trans
        ((World.EvolvesTo.of_store (evolves.has _ here.has) name cell).mono (by simp))
    obtain ⟨later, rest, mirrors, unchanged⟩ :=
      ih (fun other among => handsBack other (List.mem_cons_of_mem _ among)) further
    refine ⟨later, (Access.runOn_bind_of_ok stored _).trans rest,
      fun before => mirrors (before.store here.has shows), fun distinct before => ?_⟩
    subst before
    exact unchanged distinct (World.store_eq_self (same distinct))

/-! ## The plan of a path that was read -/

/-- What a row leads to without a change of the world it reaches. -/
theorem Leads.reaches (leads : accessor.Leads world root before ref) :
    accessor.Reaches world root before ref := by
  cases before with
  | nil => exact leads
  | cons first later => exact ⟨world, leads⟩

/-- A read that leads to a bean brings nothing into the world. -/
theorem Abreast.left_eq {cursor : Cursor} {holder : Value} {wrap : Plan → Plan}
    (abreast : accessor.Abreast request world root start before cursor left holder right wrap)
    (leads : accessor.Leads world root before ref) : left = world := by
  cases before with
  | nil =>
    generalize none : ([] : List Segment) = segments at abreast
    cases abreast with
    | root => rfl
    | step => simp at none
  | cons first later => exact (Prod.mk.inj (abreast.get.symm.trans leads)).2

variable (request) in
/-- A writable path that ends in a name can be planned. -/
theorem exists_endsInName (plain : accessor.registry.Plain schema) (fits : schema.Fits world)
    (observes : accessor.Observes world) (has : world.Has root)
    (off : request.options.growNested = false) (segments : path.segments = front ++ [.name label])
    {descriptor : PropertyDescriptor} {seen : World}
    (described : (accessor.describe root path).runOn world = (.ok descriptor, seen))
    (writable : descriptor.isWritable = true) :
    ∃ plan ref info pending,
      accessor.EndsInName request world root path front label plan ref info pending := by
  rcases exists_ends_of_describe request observes has off (.refl world []) described
      writable with
    ⟨before, last, cursor, left, holder, right, wrap, plan, split, abreast, ends, planned⟩ |
    ⟨⟨before, last, split, isKey⟩, -⟩
  case inr =>
    obtain ⟨rfl, same⟩ := List.append_inj' (split.symm.trans segments) rfl
    obtain rfl : last = .name label := by simpa using same
    simp [Segment.isName] at isKey
  obtain ⟨rfl, same⟩ := List.append_inj' (split.symm.trans segments) rfl
  obtain rfl : last = .name label := by simpa using same
  obtain rfl : right = world := by
    have quiet : (accessor.planPath request root path).QuietOn world :=
      planInto_quiet plain fits off path.later [] path.first (.bean root) (.bean root.type)
        root.type (.bean root has)
    rcases quiet with ⟨_, planned'⟩ | ⟨_, _, failed, -⟩
    · exact (Prod.mk.inj (planned.symm.trans planned')).2
    · simp [planned] at failed
  have walks : accessor.Walks request right [] path.segments (.bean root) (.bean root.type)
      root.type (wrap plan) right :=
    planInto_walks plain path.later [] path.first _ _ _ _ _ _ planned
  obtain ⟨ref, info, rebuild, pending, quiet⟩ := walks.quietPlan plain fits off (.refl _ _)
    (.bean root has) .at_root before label [] segments (by simp)
  have rebuilds : ∀ value, rebuild value = value := fun value => by
    simpa [Value.follow?] using quiet.follows value
  cases ends with
  | property label ref' holder info' core names writable =>
    obtain rfl := (abreast.reaches core).unique quiet.leads.reaches
    obtain rfl : info' = info := by simpa using names.symm.trans quiet.names
    refine ⟨wrap _, ref', info', pending, planned, (abreast.wrap_walked _).2,
      ⟨segments, quiet.leads.reaches, names⟩, quiet.has, writable, fun value => ?_, quiet.putsBack,
      fun value after read => ?_⟩
    · simpa [rebuilds] using quiet.puts value
    · have unwrapped : cursor.value.unwrapped = .bean ref' := by
        simp [Value.unwrapped_eq_core, core, Value.isAbsent]
      rw [get, Access.runOn_bind_of_ok (abreast.parent split),
        abreast.left_eq quiet.leads] at read
      simp only [step, unwrapped, readName, names] at read
      split at read
      case isFalse => simp at read
      case isTrue readable =>
        have gives : ∀ field type, info'.ShowsField ref'.type field type →
            value = (right.shown ref' field).unwrapped ∧ after = right := by
          intro field type shows
          have reads := runOn_read shows readable quiet.has (before ++ [.name label])
          rw [bind_assoc, Access.runOn_bind, reads] at read
          by_cases held : right.isHeldExclusively ref'
          · simp [held] at read
          · simp only [held, Bool.false_eq_true, ↓reduceIte, pure_bind, Access.runOn_pure,
              Prod.mk.injEq, Except.ok.injEq] at read
            exact ⟨read.1.symm, read.2.symm⟩
        obtain ⟨field, type, -, shows⟩ := shows_of_capability? plain names
        exact ⟨(gives field type shows).2, readable,
          fun field type shows => (gives field type shows).1⟩

/-- What is put back goes into a property that the path passes. -/
theorem PutsBack.isPassed {put : Put} {keys : List Segment}
    (segments : path.segments = front ++ .name label :: keys)
    (putsBack : accessor.PutsBack world root [] front put) :
    ∃ front' label', put.walked = front' ++ [.name label'] ∧
      accessor.Passes world root path front' label' put.ref put.info := by
  obtain ⟨front', label', key, quoted, rest, rfl, walked, leads, names⟩ := putsBack.passes
  exact ⟨front', label', by simpa using walked, ⟨key, quoted, rest ++ .name label :: keys,
    by simp [segments], .name label, by simp, rfl⟩, leads.reaches, names⟩

/-- A collection that was passed is handed back. -/
theorem PutsBack.handsBack {put : Put} (segments : path.segments = front ++ [.name label])
    (putsBack : accessor.PutsBack world root [] front put)
    (passed : ∀ front label ref info, accessor.Passes world root path front label ref info →
      info.isWritable = true ∧ world.isHeld ref = false) : accessor.HandsBack world put := by
  obtain ⟨front', label', -, passes⟩ := putsBack.isPassed segments
  obtain ⟨writable, free⟩ := passed _ _ _ _ passes
  exact ⟨putsBack.has, ⟨label', describe?_of_capability? passes.names⟩, writable, free,
    putsBack.value⟩

/-- A value that can be read is read as the old value, or left out. -/
theorem runOn_oldValue_of_get {value : Value}
    (read : (accessor.get root path).runOn world = (.ok value, world)) (options : AccessOptions) :
    ∃ oldValue?, (accessor.oldValue options root path).runOn world = (.ok oldValue?, world) := by
  rw [oldValue]
  by_cases extracts : options.extractOldValue
  · refine ⟨some value, ?_⟩
    rw [if_pos extracts, readOld, Access.runOn_tryCatch, Access.runOn_map, read]
    rfl
  · exact ⟨none, by rw [if_neg extracts, Access.runOn_pure]⟩

/-! ## Reading and writing back -/

/-- What was read can be written back. The path ends in the name of a property that can be written,
as can the collections on the way, no guard is on their beans, and `null` does not go to an
optional. If the property holds the value inside the optionals of its type and inside no others,
every cell then shows what it showed, and the very same world is left if variants have names of
their own. -/
theorem set_of_get (derived : accessor.registry.Derived schema) (fits : schema.Fits world)
    (guarded : ∀ guard ∈ world.guards, guard.index < world.beans.size) (has : world.Has root)
    (off : options.growNested = false) {text : String} (parsed : PropertyPath.parse text = .ok path)
    (segments : path.segments = front ++ [.name label]) {value : Value} {seen : World}
    (read : (accessor.get root path).runOn world = (.ok value, seen))
    (writable : ((accessor.isWritable root text).run world).1 = true)
    (passed : ∀ front label ref info, accessor.Passes world root path front label ref info →
      info.isWritable = true ∧ world.isHeld ref = false)
    (named : ∀ ref info, accessor.Names world root path.segments front label [] ref info →
      world.isHeld ref = false ∧ (info.type.isOptional = true → value ≠ .null)) :
    ∃ change after, (accessor.setWith options root path value).runOn world = (.ok change, after) ∧
      ((∀ ref info, accessor.Names world root path.segments front label [] ref info →
        (world.read ref info).1 = .ok (value.wrap info.type.layers)) →
        after.Mirrors world ∧ (schema.HasDistinctVariants → after = world)) := by
  obtain ⟨descriptor, _, described, writable⟩ := (isWritable_iff parsed).1 writable
  obtain ⟨plan, ref, info, pending, ends⟩ :=
    exists_endsInName ⟨value, options⟩ derived.plain fits
      (observes_of_plain derived.plain fits guarded) has off segments described writable
  obtain ⟨rfl, readable, reads⟩ := ends.reads value seen read
  obtain ⟨free, present⟩ := named ref info ends.names
  obtain ⟨field, type, typed, isField⟩ :=
    derived.isField _ _ _ (describe?_of_capability? ends.names.names)
  obtain ⟨content, cell, shown, -⟩ := fits.shown ends.has typed
  obtain rfl := reads field type isField.toShowsField
  rw [isField.declared] at present
  have holdsShown : type.Holds (seen.shown ref field) := ⟨content, shown.symm⟩
  have converted := holdsShown.convertTo_unwrapped present accessor.converter
  -- what is converted is a value that the field can show, so the field takes it
  obtain ⟨again, took, shows⟩ := (holdsShown.wrap_unwrapped present).stores
  rw [← isField.declared] at converted took shows
  generalize isWritten : (seen.shown ref field).unwrapped.wrap info.type.layers = written at *
  have stored := runOn_putBack_of_isField isField ends.has ends.writable free took
    (front ++ [.name label])
  obtain ⟨oldValue?, old⟩ := runOn_oldValue_of_get read options
  obtain ⟨after, done, mirrors, same⟩ := putAll_handsBack derived fits
    (fun put among => (ends.putsBack put among).handsBack segments passed)
    (World.EvolvesTo.of_store ends.has field ⟨type, again⟩)
  refine ⟨⟨path.text, oldValue?, written⟩, after, ?_, fun holds => ?_⟩
  · rw [runOn_setWith_of_plan old ends.planned, ends.target, converted]
    simp only [ends.puts]
    rw [putAll, Access.runOn_bind_of_ok stored, done]
    rfl
  · have whole : seen.shown ref field = written := by
      have held := holds ref info ends.names
      rw [isField.read readable ends.has, World.not_isHeldExclusively free, isWritten] at held
      exact Except.ok.inj held
    refine ⟨mirrors ((World.Mirrors.refl seen).store ends.has (shows.trans whole.symm)),
      fun distinct => same distinct (World.store_eq_self ?_)⟩
    have taken := FieldType.ofValue_toValue_of_distinct (distinct _ _ _ typed) content
    rw [← shown, whole, took, Except.ok.injEq] at taken
    rw [cell, taken]

end

open Household in
/-- The name of a friend of Eve is written back, and nothing changes. -/
theorem set_name_of_friend_of_get :
    let path : PropertyPath := ⟨.name "friends", [.key "0" false, .name "name"]⟩
    (accessor.get eve path).runOn (world []) = (.ok (.text "Ann"), world []) ∧
      ∃ change, (accessor.setWith {} eve path (.text "Ann")).runOn (world []) =
        (.ok change, world []) := by
  intro path
  have read : (accessor.get eve path).runOn (world []) = (.ok (.text "Ann"), world []) := rfl
  have writable : ((accessor.isWritable eve "friends[0].name").run (world [])).1 = true :=
    (isWritable_iff parse_name_of_friend).2 ⟨_, _, rfl, rfl⟩
  have free : ∀ ref, (world []).isHeld ref = false := fun _ => rfl
  have passed : ∀ front label ref info, accessor.Passes (world []) eve path front label ref info →
      info.isWritable = true ∧ (world []).isHeld ref = false := by
    intro front label ref info passes
    refine ⟨?_, free ref⟩
    obtain ⟨key, quoted, rest, split, -⟩ := passes.split
    obtain ⟨rfl, rfl⟩ : front = [] ∧ label = "friends" := by
      rcases front with _ | ⟨first, _ | ⟨second, _ | ⟨third, front⟩⟩⟩ <;>
        simp_all [path, PropertyPath.segments]
    obtain rfl : ref = eve := passes.reaches
    obtain rfl : Layout.property person "friends" (.list (.bean person)) = info := by
      simpa using Option.some.inj passes.names
    rfl
  have named : ∀ ref info, accessor.Names (world []) eve path.segments
      [.name "friends", .key "0" false] "name" [] ref info →
      ref = ann ∧ info = Layout.property person "name" .text := by
    intro ref info names
    obtain ⟨after, reaches⟩ := names.reaches
    have here : Value.bean ann = .bean ref := Except.ok.inj (Prod.mk.inj reaches).1
    obtain rfl := Value.bean.inj here
    exact ⟨rfl, by simpa using (Option.some.inj names.names).symm⟩
  have off : ({} : AccessOptions).growNested = false := rfl
  have segments : path.segments = [.name "friends", .key "0" false] ++ [.name "name"] := rfl
  have present : Value.text "Ann" ≠ .null := by simp
  obtain ⟨change, after, done, same⟩ := set_of_get layout.registry_derived (fits_world [])
    (by simp [world]) (has_eve []) off parse_name_of_friend segments read writable passed
    (fun ref info names => ⟨free ref, fun _ => present⟩)
  have distinct : layout.schema.HasDistinctVariants := fun _ _ _ typed =>
    Layout.test_of_field? FieldType.hasDistinctVariants rfl (by decide) typed
  obtain ⟨-, rfl⟩ : after.Mirrors (world []) ∧ after = world [] := by
    obtain ⟨mirrors, unchanged⟩ := same fun ref info names => by
      obtain ⟨rfl, rfl⟩ := named ref info names
      rfl
    exact ⟨mirrors, unchanged distinct⟩
  exact ⟨read, change, done⟩

end Accessor

/-! ## An optional in a field of any value -/

namespace Envelope

/-- The type of envelopes. -/
def envelope : TypeRef := { path := "post::Envelope" }

/-- An envelope may contain any value. -/
def layout : Layout where
  classes := [(envelope, [("content", .value)])]

/-- Accesses to envelopes. -/
def accessor : Accessor where
  registry := layout.registry

/-- A letter. -/
def letter : BeanRef := ⟨0, envelope⟩

/-- A letter with an optional in it. -/
def world : World where
  beans := #[⟨envelope, [("content", ⟨.value, .optSome (.int 5)⟩)]⟩]

/-- The letter fits its layout. -/
theorem fits_world : layout.schema.Fits world := by
  refine Layout.fits_of_fills fun bean among => ?_
  obtain rfl : bean = ⟨envelope, [("content", ⟨.value, .optSome (.int 5)⟩)]⟩ := by
    simpa [world] using among
  refine ⟨by decide, fun entry listed => ?_⟩
  obtain rfl : entry = ("content", .value) := List.mem_singleton.1 listed
  exact ⟨.optSome (.int 5), rfl, .optSome _ (.atomic _ rfl)⟩

/-- What is read of the letter is five. Written back, it has lost its optional. -/
theorem set_of_get_loses_optional :
    let path : PropertyPath := ⟨.name "content", []⟩
    accessor.registry.Derived layout.schema ∧ layout.schema.Fits world ∧ world.Has letter ∧
      PropertyPath.parse "content" = .ok path ∧
      (accessor.get letter path).runOn world = (.ok (.int 5), world) ∧
      ((accessor.isWritable letter "content").run world).1 = true ∧
      world.shown letter "content" = .optSome (.int 5) ∧
      ∃ change after, (accessor.setWith {} letter path (.int 5)).runOn world = (.ok change, after) ∧
        after.shown letter "content" = .int 5 := by
  intro path
  have parsed : PropertyPath.parse "content" = .ok path := by decide +kernel
  exact ⟨layout.registry_derived, fits_world, ⟨_, rfl, rfl⟩, parsed, rfl,
    (Accessor.isWritable_iff parsed).2 ⟨_, _, rfl, rfl⟩, rfl, _, _, rfl, rfl⟩

end Envelope

end PropertyGraph
