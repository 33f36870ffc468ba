import PropertyGraph.Proofs.Field.Exact
import PropertyGraph.Proofs.Graph.Layout
import PropertyGraph.Proofs.Read.Onward
import PropertyGraph.Proofs.Write.Grow

/-!
# Reading what was written

If the names of a path are resolved on different beans, no value that a write puts into a property
is overwritten by another one. The reader then takes the same steps as the writer: through the
beans that were there or have been made, and through the collections as they were put back, to the
new value.
-/
namespace PropertyGraph

/-- The two worlds have the same guards, and the given beans are the same in them. -/
def World.AgreesOn (world : World) (refs : List BeanRef) (other : World) : Prop :=
  world.guards = other.guards ∧ ∀ ref ∈ refs, world.Has ref ∧ world.bean ref = other.bean ref

namespace Accessor

/-- Properties show fields that keep what they take, can be read if they can be written, and
constructors and coercions give what they promise. -/
structure Faithful (accessor : Accessor) (schema : Schema) : Prop where
  plain : accessor.registry.Plain schema
  readable : ∀ owner name info, accessor.registry.describe? owner name = some info →
    info.isWritable = true → info.isReadable = true
  exact : ∀ owner field type, schema.field? owner field = some type → type.isExact = true
  constructs : accessor.Constructs schema
  sound : accessor.converter.Sound

/-- What is read along segments after a write into a value that has left `written` in its place. -/
structure ReadBack (accessor : Accessor) (world after : World) (segments : List Segment)
    (holders : List BeanRef) (type : FieldType) (written value : Value) : Prop where
  evolves : world.EvolvesTo holders after
  has : ∀ ref ∈ holders, after.Has ref
  reads : ∀ later : World, later.AgreesOn holders after → ∀ shown, type.Stores written shown →
    accessor.ReadsTo later shown segments value.unwrapped

section

variable {accessor : Accessor} {schema : Schema} {request : WriteRequest}
  {world middle after : World} {ref : BeanRef} {info : PropertyInfo} {field : String}
  {type inner : FieldType} {holder written value : Value} {label : String}

/-- A property in which a bean was found stores the value that the bean was found in. -/
theorem stores_of_core_bean (fits : schema.Fits world) (has : world.Has ref)
    (typed : schema.field? ref.type field = some inner) {target : BeanRef}
    (core : value.core = .bean target)
    (found : value = world.shown ref field ∨ inner.Stores value (world.shown ref field)) :
    inner.Stores value (world.shown ref field) := by
  rcases found with same | stores
  · obtain ⟨content, -, shown, -⟩ := fits.shown has typed
    have isValue : inner.toValue content = value := shown.symm.trans same.symm
    have holds : inner.Holds value := ⟨content, isValue⟩
    have taken := FieldType.ofValue_toValue (holds.holdsBeans core) content
    exact ⟨content, isValue ▸ taken, shown.symm⟩
  · exact stores

/-- The property at the end of a path is read as it was written. -/
theorem readBack_property (has : world.Has ref) (core : holder.core = .bean ref)
    (names : accessor.capability? ref.type label = some (.property info))
    (shows : info.ShowsField ref.type field inner) (readable : info.isReadable = true)
    (kept : inner.Keeps value) {walked : List Segment}
    (done : (putBack walked ref info value).runOn world = (.ok (), after)) :
    accessor.ReadBack world after [.name label] [ref] type holder value := by
  obtain ⟨evolves, free, content, took, shown⟩ := stores_of_putBack has shows done
  refine ⟨evolves, by simpa using evolves.has ref has, fun later agrees there stores => ?_⟩
  obtain ⟨hasLater, sameBean⟩ := agrees.2 ref (List.mem_singleton_self ref)
  have sameShown : later.shown ref field = after.shown ref field := by
    simp only [World.shown, sameBean]
  have guards : later.guards = world.guards := agrees.1.trans evolves.guards
  have freeLater : later.isHeldExclusively ref = false :=
    (World.isHeldExclusively_of_guards guards ref).trans (World.not_isHeldExclusively free)
  have steps := stepsTo_name (stores.core_bean core) names shows readable hasLater freeLater
  rw [sameShown, ← shown, kept content took] at steps
  exact steps.readsTo rfl

/-- What is read behind a property is read through it, if the property shows what was written into
its value and nothing behind it is resolved on the same bean. -/
theorem ReadBack.throughProperty {entered last : World} {next : Segment} {later : List Segment}
    {holders : List BeanRef} (has : world.Has ref) (core : holder.core = .bean ref)
    (names : accessor.capability? ref.type label = some (.property info))
    (shows : info.ShowsField ref.type field inner) (readable : info.isReadable = true)
    (free : world.isHeldExclusively ref = false) (distinct : ref ∉ holders)
    (enters : world.EvolvesTo [ref] entered)
    (back : accessor.ReadBack entered last (next :: later) holders inner written value)
    (ends : last.EvolvesTo [ref] after) (stores : inner.Stores written (after.shown ref field)) :
    accessor.ReadBack world after (.name label :: next :: later) (ref :: holders) type holder
      value where
  evolves := ((enters.mono (by simp)).trans (back.evolves.mono (by simp))).trans
    (ends.mono (by simp))
  has := by
    intro other among
    rcases List.mem_cons.1 among with rfl | among
    · exact ends.has _ (back.evolves.has _ (enters.has _ has))
    · exact ends.has other (back.has other among)
  reads := by
    intro world' agrees shown storesHolder
    have guards : world'.guards = world.guards := by
      rw [agrees.1, ends.guards, back.evolves.guards, enters.guards]
    obtain ⟨hasRef, sameBean⟩ := agrees.2 ref List.mem_cons_self
    have agreesBehind : world'.AgreesOn holders last := by
      refine ⟨agrees.1.trans ends.guards, fun other among => ?_⟩
      obtain ⟨hasOther, same⟩ := agrees.2 other (List.mem_cons_of_mem _ among)
      have different : other ∉ [ref] := by
        intro isRef
        exact distinct (List.mem_singleton.1 isRef ▸ among)
      exact ⟨hasOther, same.trans (ends.bean other (back.has other among) different)⟩
    have shownThere : world'.shown ref field = after.shown ref field := by
      simp only [World.shown, sameBean]
    have steps := stepsTo_name (storesHolder.core_bean core) names shows readable hasRef
      ((World.isHeldExclusively_of_guards guards ref).trans free)
    rw [shownThere] at steps
    exact steps.trans (back.reads world' agreesBehind _ stores)

/-- What is read behind a key is read through the collection that was made with it. -/
theorem ReadBack.throughSlot {entered last : World} {segment next : Segment}
    {later : List Segment} {holders : List BeanRef} {rebuild : Value → Value}
    (enters : world.EvolvesTo [] entered)
    (back : accessor.ReadBack entered last (next :: later) holders type.element written value)
    (leads : (rebuild written).slot? segment = some written) :
    accessor.ReadBack world last (segment :: next :: later) holders type (rebuild written)
      value where
  evolves := (enters.mono (by simp)).trans back.evolves
  has := back.has
  reads := by
    intro world' agrees shown stores
    obtain ⟨shownSlot, found, storesSlot⟩ := stores.entry leads
    exact (stepsTo_key found).trans (back.reads world' agrees shownSlot storesSlot)

/-- After a walk and the puts that it planned, what was written is read along the same segments. -/
theorem Walks.readBack (faithful : accessor.Faithful schema) {before segments : List Segment}
    {declared : DeclaredType} {owner : TypeRef} {plan : Plan}
    (walks : accessor.Walks request world before segments holder declared owner plan middle)
    (fits : schema.Fits world) (admitted : world.Admits holder)
    (declares : type.declared = declared) (exact : type.isExact = true)
    (distinct : plan.holders.Nodup)
    (kept : ∀ inner : FieldType, inner.declared = plan.target → inner.isExact = true →
      inner.Keeps value)
    (done : (putAll (plan.puts value)).runOn middle = (.ok (), after)) :
    accessor.ReadBack world after segments plan.holders type
      ((plan.copy?.map (· value)).getD holder) value := by
  induction walks generalizing type after with
  | property world before label holder declared owner ref info core names writable =>
    obtain ⟨field, inner, typed, shows⟩ := shows_of_capability? faithful.plain names
    have readable := faithful.readable _ _ _ (describe?_of_capability? names) writable
    have exactInner := faithful.exact _ _ _ typed
    obtain ⟨_, last, puts, done⟩ := Access.runOn_bind_eq_ok_iff.1 done
    obtain rfl : last = after := by simpa [putAll] using done
    exact readBack_property (core ▸ admitted.core).has core names shows readable
      (kept inner shows.declared.symm exactInner) puts
  | throughProperty world entered middle before label next later holder child declared owner ref
      info plan core names readable enters walks ih =>
    have has : world.Has ref := (core ▸ admitted.core).has
    obtain ⟨field, inner, typed, shows⟩ := shows_of_capability? faithful.plain names
    obtain ⟨evolves, fitsEntered, admittedChild, free, childShown⟩ :=
      enters_shown faithful.constructs fits typed shows readable has enters
    obtain ⟨apart, distinctBehind⟩ := List.nodup_cons.1 distinct
    simp only [Plan.behindProperty, putAll_append] at done
    obtain ⟨_, last, behind, done⟩ := Access.runOn_bind_eq_ok_iff.1 done
    have back := ih fitsEntered admittedChild shows.declared.symm (faithful.exact _ _ _ typed)
      distinctBehind kept behind
    have hasEntered : entered.Has ref := evolves.has ref has
    have hasLast : last.Has ref := back.evolves.has ref hasEntered
    cases copied : plan.copy? with
    | none =>
      obtain rfl : last = after := by simpa [copied, putAll] using done
      simp only [copied, Option.map_none, Option.getD_none] at back
      obtain ⟨target, coreChild⟩ := walks.copy?_eq_none_iff.1 copied
      apply back.throughProperty has core names shows readable free apart evolves (.refl _ _)
      rw [back.evolves.shown hasEntered apart]
      exact stores_of_core_bean fitsEntered hasEntered typed coreChild childShown
    | some copy =>
      simp only [copied, Option.map_some, Option.getD_some] at back
      obtain ⟨_, last', puts, done⟩ := Access.runOn_bind_eq_ok_iff.1 (copied ▸ done)
      obtain rfl : last' = after := by simpa [putAll] using done
      obtain ⟨ends, -, stores⟩ := stores_of_putBack hasLast shows puts
      exact back.throughProperty has core names shows readable free apart evolves ends stores
  | slot world middle before segment holder slot rebuild declared owner opens =>
    obtain rfl : middle = after := by simpa [putAll] using done
    obtain ⟨evolves, -, -⟩ := opens.adds faithful.constructs fits admitted
    refine ⟨evolves, by simp, fun later _ shown stores => ?_⟩
    obtain ⟨shownSlot, found, content, took, rfl⟩ := stores.entry (opens.slot?_rebuild value)
    have declaresSlot : type.element.declared = declared.element := by
      rw [type.declared_element, declares]
    have same := kept type.element declaresSlot (FieldType.isExact_element exact) content took
    rw [same] at found
    exact (stepsTo_key found).readsTo rfl
  | throughSlot world opened entered middle before segment next later holder slot child rebuild
      declared owner plan opens enters walks ih =>
    obtain ⟨evolves, fitsOpened, admittedSlot⟩ := opens.adds faithful.constructs fits admitted
    obtain ⟨evolves', fitsEntered, told⟩ := (enterSlot_adds faithful.constructs fitsOpened
      (before ++ [segment]) owner declared.element admittedSlot).of_run enters
    have declaresSlot : type.element.declared = declared.element := by
      rw [type.declared_element, declares]
    have back := ih fitsEntered (told child rfl) declaresSlot (FieldType.isExact_element exact)
      distinct kept done
    change accessor.ReadBack world after (segment :: next :: later) plan.holders type
      (rebuild ((plan.copy?.map (· value)).getD child)) value
    exact back.throughSlot (evolves.trans evolves') (opens.slot?_rebuild _)

/-- What a converted raw value is put into keeps it, whatever field of the target type that is. -/
theorem keeps_of_convertRaw (sound : accessor.converter.Sound) {walked : List Segment} {raw : Value}
    {target : DeclaredType}
    (done : (accessor.convertRaw walked raw target).runOn world = (.ok value, after)) :
    after = world ∧ ∀ inner : FieldType, inner.declared = target → inner.isExact = true →
      inner.Keeps value := by
  rw [runOn_convertRaw] at done
  cases converted : convertTo accessor.converter raw target with
  | error cause => simp [converted] at done
  | ok value' =>
    obtain ⟨rfl, rfl⟩ : value' = value ∧ world = after := by
      simpa [converted] using done
    refine ⟨rfl, fun inner declares exact => ?_⟩
    exact FieldType.keeps_of_convertTo exact sound (declares ▸ converted)

/-- The beans on which a write resolves the names of a path, in order. -/
def holders (accessor : Accessor) (options : AccessOptions) (root : BeanRef) (path : PropertyPath)
    (raw : Value) : Access (List BeanRef) := do
  let _ ← accessor.oldValue options root path
  let plan ← accessor.planPath ⟨raw, options⟩ root path
  return plan.holders

/-- After a successful write, with growth or without, the path is read as the new value without its
optionals, if the names of the path were resolved on different beans. -/
theorem get_of_set (faithful : accessor.Faithful schema) (fits : schema.Fits world) {root : BeanRef}
    (has : world.Has root) {options : AccessOptions} {path : PropertyPath} {raw : Value}
    {change : PropertyChange}
    (done : (accessor.setWith options root path raw).runOn world = (.ok change, after)) :
    ∃ beans last, (accessor.holders options root path raw).runOn world = (.ok beans, last) ∧
      beans.length = (path.segments.filter Segment.isName).length ∧
      (beans.Nodup →
        (accessor.get root path).runOn after = (.ok change.newValue.unwrapped, after)) := by
  obtain ⟨oldValue?, start, written, read, evolves, fitsStart, run, outcome⟩ :=
    setWith_runs faithful.plain fits has done
  obtain ⟨value, rfl, rfl⟩ := map_eq_ok_iff.1 outcome.symm
  rw [writePath_eq_plan] at run
  obtain ⟨plan, middle, planned, run⟩ := Access.runOn_bind_eq_ok_iff.1 run
  obtain ⟨value', converted, accepted, run⟩ := Access.runOn_bind_eq_ok_iff.1 run
  obtain ⟨_, last, puts, run⟩ := Access.runOn_bind_eq_ok_iff.1 run
  obtain ⟨rfl, rfl⟩ : value' = value ∧ last = after := by simpa using run
  obtain ⟨rfl, kept⟩ := keeps_of_convertRaw faithful.sound accepted
  have walks : accessor.Walks ⟨raw, options⟩ start [] path.segments (.bean root)
      (.bean root.type) root.type plan converted :=
    planInto_walks faithful.plain path.later [] path.first _ _ _ _ _ _ planned
  have resolved : (accessor.holders options root path raw).runOn world =
      (.ok plan.holders, converted) := by
    rw [holders, Access.runOn_bind_of_ok read, Access.runOn_bind_of_ok planned, Access.runOn_pure]
  refine ⟨plan.holders, converted, resolved, walks.length_holders, fun distinct => ?_⟩
  have hasStart : start.Has root := evolves.has root has
  have back := walks.readBack faithful fitsStart (.bean root hasStart)
    (show (FieldType.bean root.type).declared = .bean root.type from rfl) rfl distinct kept puts
  have agrees : last.AgreesOn plan.holders last :=
    ⟨rfl, fun ref among => ⟨back.has ref among, rfl⟩⟩
  have nothing : plan.copy? = none := walks.copy?_eq_none_iff.2 ⟨root, rfl⟩
  have stores : (FieldType.bean root.type).Stores
      ((plan.copy?.map (· value')).getD (.bean root)) (.bean root) := by
    rw [nothing]
    exact ⟨⟨root, rfl⟩, by simp [FieldType.ofValue, FieldType.ofBean], rfl⟩
  exact (back.reads last agrees (.bean root) stores).get

end

/-- Accesses to a layout without floats of the single width, with the standard converter, are
faithful. -/
theorem faithful_of_layout (layout : Layout)
    (exact : ∀ entry ∈ layout.classes, ∀ field ∈ entry.2, field.2.isExact = true) :
    Faithful { registry := layout.registry } layout.schema where
  plain := layout.registry_plain
  readable _ _ _ described _ := Layout.isReadable_registry described
  exact _ _ _ typed := Layout.test_of_field? FieldType.isExact rfl exact typed
  constructs _ _ found := Layout.registry_makes found
  sound := Converter.standard_sound

open Household in
/-- Eve gets a second friend, who is read by the name that the write has given. -/
theorem get_name_of_new_friend :
    let options : AccessOptions := { growNested := true }
    let path : PropertyPath := ⟨.name "friends", [.key "1" false, .name "name"]⟩
    let after := ((accessor.setWith options eve path (.text "Bob")).runOn (world [])).2
    (accessor.get eve path).runOn after = (.ok (.text "Bob"), after) := by
  intro options path after
  have faithful : accessor.Faithful layout.schema := faithful_of_layout layout (by decide)
  have done : (accessor.setWith options eve path (.text "Bob")).runOn (world []) =
      (.ok ⟨path.text, none, .text "Bob"⟩, after) := rfl
  have resolved : ((accessor.holders options eve path (.text "Bob")).runOn (world [])).1 =
      .ok [eve, ⟨4, person⟩] := rfl
  obtain ⟨beans, last, holders, -, reads⟩ := get_of_set faithful (fits_world []) (has_eve []) done
  have distinct : beans = [eve, ⟨4, person⟩] := by simpa [holders] using resolved
  exact reads (by rw [distinct]; decide)

end Accessor

end PropertyGraph
