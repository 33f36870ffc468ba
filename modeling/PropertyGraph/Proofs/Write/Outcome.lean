import PropertyGraph.Proofs.Field.Shown
import PropertyGraph.Proofs.Write.Restore

/-!
# Writes that make nothing

A write without growth goes wrong before anything is written, and then all that was there is left
alone. Or else the raw value is stored in the property of the last name of the path, in the bean
that the segments before it lead to, and the collections on the way are put back.
-/
namespace PropertyGraph.Accessor

/-- Where a path leads: the property that its last name is resolved on, on the bean that the
segments before that name lead to, and the field that the property shows. -/
structure Target (accessor : Accessor) (schema : Schema) (world : World) (root : BeanRef)
    (path : PropertyPath) where
  /-- The segments before the last name. -/
  front : List Segment
  /-- The last name. -/
  label : String
  /-- The keys behind the last name. -/
  keys : List Segment
  /-- The bean that has the property of the last name. -/
  ref : BeanRef
  /-- The property of the last name. -/
  info : PropertyInfo
  /-- The field that the property shows. -/
  field : String
  /-- The type of the field. -/
  type : FieldType
  segments : path.segments = front ++ .name label :: keys
  isKey : ∀ segment ∈ keys, segment.isName = false
  leads : accessor.Leads world root front ref
  has : world.Has ref
  names : accessor.capability? ref.type label = some (.property info)
  typed : schema.field? ref.type field = some type
  shows : info.ShowsField ref.type field type

/-- A write without growth that has stored the raw value at its target, and what becomes of the
collections that are put back after it. -/
structure QuietWrite (accessor : Accessor) (schema : Schema) (world : World) (root : BeanRef)
    (path : PropertyPath) (written : Except AccessError Value) (after : World) extends
    Target accessor schema world root path where
  /-- The converted raw value. -/
  value : Value
  /-- What is stored in the field. -/
  content : type.Carrier
  /-- The world after that. -/
  stored : World
  /-- What is put back. -/
  pending : List Put
  /-- The outcome of putting it back. -/
  outcome : Except AccessError Unit
  stores : ∃ shown, (type.toValue content).follow? keys = some shown ∧
    (type.behind keys).Stores value shown
  outside : Value.AgreesOff keys (world.shown ref field) (type.toValue content)
  guards : stored.guards = world.guards
  kept : ∀ other, world.Has other → stored.Has other
  cell : ∀ other field', world.Has other → stored.cell? other field' =
    if other = ref ∧ field' = field then some ⟨type, content⟩ else world.cell? other field'
  putsBack : ∀ put ∈ pending, accessor.PutsBack world root [] front put
  complete : ∀ front' label' key quoted rest,
    front = front' ++ .name label' :: .key key quoted :: rest →
      ∃ put ∈ pending, put.walked = front' ++ [.name label']
  putBack : PutBack schema world pending stored outcome after
  written_eq : written = outcome.map fun _ => value

/-- A row of segments with a name in it ends in a name and keys behind that name. -/
theorem exists_last_name (segments : List Segment)
    (named : ∃ segment ∈ segments, segment.isName = true) :
    ∃ front label keys, segments = front ++ .name label :: keys ∧
      ∀ segment ∈ keys, segment.isName = false := by
  induction segments with
  | nil => simp at named
  | cons first later ih =>
    by_cases further : ∃ segment ∈ later, segment.isName = true
    · obtain ⟨front, label, keys, rfl, isKey⟩ := ih further
      exact ⟨first :: front, label, keys, rfl, isKey⟩
    · have isKey : ∀ segment ∈ later, segment.isName = false := by simpa using further
      cases first with
      | name label => exact ⟨[], label, later, rfl, isKey⟩
      | key label quoted =>
        obtain ⟨segment, among, isName⟩ := named
        rcases List.mem_cons.1 among with rfl | among
        · simp [Segment.isName] at isName
        · exact absurd ⟨segment, among, isName⟩ further

section

variable {accessor : Accessor} {schema : Schema} {world middle after : World} {root : BeanRef}
  {options : AccessOptions} {path : PropertyPath} {raw : Value}

/-- A converted value that is put into a property first is stored, or nothing happens. -/
theorem putAll_quietPlan (plain : accessor.registry.Plain schema) (fits : schema.Fits world)
    (evolves : world.EvolvesTo [] middle) {front keys : List Segment} {label : String}
    (segments : path.segments = front ++ .name label :: keys)
    (isKey : ∀ segment ∈ keys, segment.isName = false) {plan : Plan} {ref : BeanRef}
    {info : PropertyInfo} {rebuild : Value → Value} {pending : List Put}
    (quiet : accessor.QuietPlan world root [] (.bean root) front label keys plan ref info rebuild
      pending) (value : Value) :
    ∃ outcome last, (putAll (plan.puts value)).runOn middle = (outcome, last) ∧
      (((∃ error, outcome = .error error) ∧ last = middle) ∨
        Nonempty (accessor.QuietWrite schema world root path (outcome.map fun _ => value)
          last)) := by
  have has : middle.Has ref := evolves.has ref quiet.has
  obtain ⟨field, type, typed, shows⟩ := plain.shows _ _ _ (describe?_of_capability? quiet.names)
  rw [quiet.puts]
  rcases runOn_putBack shows has ([] ++ front ++ [.name label]) (rebuild value) with
    ⟨content, took, -, stored⟩ | ⟨error, -, failed⟩
  · have kept := World.EvolvesTo.of_store has field ⟨type, content⟩
    obtain ⟨outcome, last, run, putBack⟩ := putAll_putsBack plain fits pending
      (middle.store ref field ⟨type, content⟩) quiet.putsBack
      (fun other hasOther => kept.has other (evolves.has other hasOther))
    refine ⟨outcome, last, (Access.runOn_bind_of_ok stored _).trans run, .inr ⟨?_⟩⟩
    let target : accessor.Target schema world root path := ⟨front, label, keys, ref, info, field,
      type, segments, isKey, quiet.leads, quiet.has, quiet.names, typed, shows⟩
    refine ⟨target, value, content, middle.store ref field ⟨type, content⟩, pending, outcome, ?_,
      ?_, evolves.guards, fun other hasOther => kept.has other (evolves.has other hasOther), ?_,
      quiet.putsBack, quiet.complete, putBack, rfl⟩
    · exact FieldType.Stores.follow ⟨content, took, rfl⟩ (quiet.follows value)
    · obtain ⟨held, -, shown, -⟩ := fits.shown quiet.has typed
      exact FieldType.Stores.agreesOff ⟨content, took, rfl⟩ (quiet.outside field type shows value)
        ⟨held, shown.symm⟩
    · intro other field' hasOther
      rw [World.cell?_store has (evolves.has other hasOther), evolves.cell? hasOther (by simp)]
  · exact ⟨_, middle, Access.runOn_bind_of_error failed _, .inl ⟨⟨error, rfl⟩, rfl⟩⟩

/-- A write without growth has walked its path, which has a last name with keys behind it, and has
converted the raw value. What is left is to put the value into the property of that name, and to put
back the collections on the way. -/
structure Carries (accessor : Accessor) (request : WriteRequest) (world middle : World)
    (root : BeanRef) (path : PropertyPath) (front : List Segment) (label : String)
    (keys : List Segment) (plan : Plan) (ref : BeanRef) (info : PropertyInfo)
    (rebuild : Value → Value) (pending : List Put) (value : Value) : Prop where
  segments : path.segments = front ++ .name label :: keys
  isKey : ∀ segment ∈ keys, segment.isName = false
  walks : accessor.Walks request middle [] path.segments (.bean root) (.bean root.type) root.type
    plan middle
  quiet : accessor.QuietPlan world root [] (.bean root) front label keys plan ref info rebuild
    pending
  converted : convertTo accessor.converter request.raw plan.target = .ok value

/-- A path that was walked is carried out once the raw value has been converted. -/
theorem Walks.carries (plain : accessor.registry.Plain schema) (fits : schema.Fits world)
    (has : world.Has root) (off : options.growNested = false)
    (evolves : world.EvolvesTo [] middle) {plan : Plan}
    (walks : accessor.Walks ⟨raw, options⟩ middle [] path.segments (.bean root) (.bean root.type)
      root.type plan middle) {front keys : List Segment} {label : String}
    (segments : path.segments = front ++ .name label :: keys)
    (isKey : ∀ segment ∈ keys, segment.isName = false) {value : Value}
    (converted : convertTo accessor.converter raw plan.target = .ok value) :
    (∃ ref info rebuild pending,
      accessor.Carries ⟨raw, options⟩ world middle root path front label keys plan ref info rebuild
        pending value) ∧
      (accessor.writePath options root path raw).runOn middle =
        (((putAll (plan.puts value)).runOn middle).1.map fun _ => value,
          ((putAll (plan.puts value)).runOn middle).2) := by
  constructor
  · obtain ⟨ref, info, rebuild, pending, quiet⟩ := walks.quietPlan plain fits off evolves
      (.bean root has) .at_root front label keys segments isKey
    exact ⟨ref, info, rebuild, pending, segments, isKey, walks, quiet, converted⟩
  · have planned : (accessor.planPath ⟨raw, options⟩ root path).runOn middle = (.ok plan, middle) :=
      walks.run rfl
    have accepted : (accessor.convertRaw plan.walked raw plan.target).runOn middle =
        (.ok value, middle) := by
      rw [runOn_convertRaw, converted, Access.mapError_ok]
    rw [writePath_eq_plan, Access.runOn_bind_of_ok planned, Access.runOn_bind_of_ok accepted,
      Access.runOn_bind]
    rcases (putAll (plan.puts value)).runOn middle with ⟨(error | _), last⟩ <;> rfl

/-- A write without growth goes wrong on its way, or it carries out its plan. -/
theorem writePath_carries (plain : accessor.registry.Plain schema) (fits : schema.Fits world)
    (has : world.Has root) (off : options.growNested = false)
    (evolves : world.EvolvesTo [] middle) (fitsMiddle : schema.Fits middle)
    {written : Except AccessError Value}
    (run : (accessor.writePath options root path raw).runOn middle = (written, after)) :
    ((∃ error, written = .error error) ∧ world.EvolvesTo [] after) ∨
      ∃ front label keys plan ref info rebuild pending value outcome,
        accessor.Carries ⟨raw, options⟩ world middle root path front label keys plan ref info
          rebuild pending value ∧
        (putAll (plan.puts value)).runOn middle = (outcome, after) ∧
        written = outcome.map fun _ => value := by
  have quiet : (accessor.planPath ⟨raw, options⟩ root path).QuietOn middle :=
    planInto_quiet plain fitsMiddle off path.later [] path.first (.bean root) (.bean root.type)
      root.type (.bean root (evolves.has root has))
  rcases quiet with ⟨plan, planned⟩ | ⟨error, last, failed, evolves'⟩
  · have walks : accessor.Walks ⟨raw, options⟩ middle [] path.segments (.bean root)
        (.bean root.type) root.type plan middle :=
      planInto_walks plain path.later [] path.first _ _ _ _ _ _ planned
    cases converted : convertTo accessor.converter raw plan.target with
    | error cause =>
      rw [writePath_eq_plan, Access.runOn_bind_of_ok planned, Access.runOn_bind, runOn_convertRaw,
        converted] at run
      obtain ⟨rfl, rfl⟩ := Prod.mk.inj run
      exact .inl ⟨⟨_, rfl⟩, evolves⟩
    | ok value =>
      obtain ⟨front, label, keys, segments, isKey⟩ := exists_last_name path.segments
        ⟨path.first, List.mem_cons_self, walks.isName rfl⟩
      obtain ⟨⟨ref, info, rebuild, pending, carries⟩, runs⟩ :=
        walks.carries plain fits has off evolves segments isKey converted
      obtain ⟨rfl, rfl⟩ := Prod.mk.inj (runs.symm.trans run)
      exact .inr ⟨front, label, keys, plan, ref, info, rebuild, pending, value, _, carries, rfl,
        rfl⟩
  · rw [writePath_eq_plan, Access.runOn_bind_of_error failed] at run
    obtain ⟨rfl, rfl⟩ := Prod.mk.inj run
    exact .inl ⟨⟨error, rfl⟩, evolves.trans evolves'⟩

/-- A write without growth goes wrong before anything is stored, or it stores the raw value. -/
theorem writePath_quiet (plain : accessor.registry.Plain schema) (fits : schema.Fits world)
    (has : world.Has root) (off : options.growNested = false)
    (evolves : world.EvolvesTo [] middle) (fitsMiddle : schema.Fits middle)
    {written : Except AccessError Value}
    (run : (accessor.writePath options root path raw).runOn middle = (written, after)) :
    ((∃ error, written = .error error) ∧ world.EvolvesTo [] after) ∨
      Nonempty (accessor.QuietWrite schema world root path written after) := by
  rcases writePath_carries plain fits has off evolves fitsMiddle run with
    wrong | ⟨front, label, keys, plan, ref, info, rebuild, pending, value, _, carries, puts, rfl⟩
  · exact .inl wrong
  obtain ⟨outcome, last, puts', effect⟩ := putAll_quietPlan plain fits evolves carries.segments
    carries.isKey carries.quiet value
  obtain ⟨rfl, rfl⟩ := Prod.mk.inj (puts.symm.trans puts')
  rcases effect with ⟨⟨error, rfl⟩, rfl⟩ | stored
  · exact .inl ⟨⟨error, rfl⟩, evolves⟩
  · exact .inr stored

/-- A successful write without growth stores the new value, and all is put back after it. -/
theorem setWith_quiet (plain : accessor.registry.Plain schema) (fits : schema.Fits world)
    (has : world.Has root) (off : options.growNested = false) {change : PropertyChange}
    (done : (accessor.setWith options root path raw).runOn world = (.ok change, after)) :
    ∃ write : accessor.QuietWrite schema world root path (.ok change.newValue) after,
      write.outcome = .ok () ∧ write.value = change.newValue := by
  obtain ⟨oldValue?, middle, written, -, evolves, fitsMiddle, run, outcome⟩ :=
    setWith_runs plain fits has done
  obtain ⟨value, rfl, rfl⟩ := map_eq_ok_iff.1 outcome.symm
  rcases writePath_quiet plain fits has off evolves fitsMiddle run with
    ⟨⟨error, failed⟩, -⟩ | ⟨⟨write⟩⟩
  · simp at failed
  obtain ⟨_, succeeded, same⟩ := map_eq_ok_iff.1 write.written_eq.symm
  exact ⟨write, succeeded, same⟩

end

end PropertyGraph.Accessor
