import PropertyGraph.Proofs.Graph.Layout
import PropertyGraph.Proofs.Write.Return

/-!
# What a description foretells

A description goes along a path as a write does and stops before the last segment. So a successful
write was described before, with the type that the raw value has been converted to. The other way
round a description knows of the property of the last name alone: a write may still be refused for a
property that it only passes.
-/
namespace PropertyGraph.Accessor

/-! ## The converter is asked once -/

section

variable (accessor : Accessor) (converter : Converter)

/-- The converter has no part in making skipped elements. -/
theorem fillers_withConverter :
    ({ accessor with converter := converter } : Accessor).fillers = accessor.fillers := by
  funext walked owner element count
  induction count with
  | zero => rfl
  | succ count ih =>
    rw [fillers, fillers, ih]
    rfl

/-- Neither the converter nor the raw value has a part in planning one segment. -/
theorem planStep_withConverter (options : AccessOptions) (raw raw' : Value) (before : List Segment)
    (segment : Segment) (walk? : Option Walk) :
    ({ accessor with converter := converter } : Accessor).planStep ⟨raw', options⟩ before segment
      walk? = accessor.planStep ⟨raw, options⟩ before segment walk? := by
  have extends_eq : ({ accessor with converter := converter } : Accessor).extendTo ⟨raw', options⟩ =
      accessor.extendTo ⟨raw, options⟩ := by
    funext before segment owner element index items
    rw [extendTo, extendTo, fillers_withConverter]
  funext holder declared owner
  simp only [planStep, extends_eq]
  rfl

/-- Neither the converter nor the raw value has a part in the walk over a path. -/
theorem planPath_withConverter (options : AccessOptions) (raw raw' : Value) (root : BeanRef)
    (path : PropertyPath) :
    ({ accessor with converter := converter } : Accessor).planPath ⟨raw', options⟩ root path =
      accessor.planPath ⟨raw, options⟩ root path := by
  have walks : ∀ (later before : List Segment) (segment : Segment),
      ({ accessor with converter := converter } : Accessor).planInto ⟨raw', options⟩ before segment
        later = accessor.planInto ⟨raw, options⟩ before segment later := by
    intro later
    induction later with
    | nil =>
      intro before segment
      exact accessor.planStep_withConverter converter options raw raw' before segment none
    | cons next later ih =>
      intro before segment
      rw [planInto, planInto, ih]
      exact accessor.planStep_withConverter converter options raw raw' before segment _
  rw [planPath, planPath, walks]

/-- The converter has no part in reading the old value. -/
theorem oldValue_withConverter (options : AccessOptions) (root : BeanRef) (path : PropertyPath) :
    ({ accessor with converter := converter } : Accessor).oldValue options root path =
      accessor.oldValue options root path := by
  have reads : ∀ (later : List Segment) (cursor : Cursor) (before : List Segment)
      (segment : Segment),
      ({ accessor with converter := converter } : Accessor).navigate cursor before segment later =
        accessor.navigate cursor before segment later := by
    intro later
    induction later with
    | nil => intros; rfl
    | cons next later ih =>
      intro cursor before segment
      rw [navigate, navigate]
      simp only [ih]
      rfl
  rw [oldValue, oldValue, readOld, readOld, get, get, parent, parent, reads]
  rfl

end

section

variable {accessor : Accessor} {world after : World} {root : BeanRef} {path : PropertyPath}
  {options : AccessOptions} {raw : Value}

/-! ## Successful writes -/

/-- What is carried out was described as writable. -/
theorem Abreast.isWritable_of_putAll {request : WriteRequest} {start left right middle : World}
    {before : List Segment} {last : Segment} {cursor : Cursor} {holder value : Value}
    {wrap : Plan → Plan} {descriptor : PropertyDescriptor} {plan : Plan}
    (abreast : accessor.Abreast request world root start before cursor left holder right wrap)
    (ends : accessor.Ends before cursor last descriptor plan)
    (done : (putAll ((wrap plan).puts value)).runOn middle = (.ok (), after)) :
    descriptor.isWritable = true := by
  cases ends with
  | property label ref holder info core names writable => exact writable
  | slot key quoted rebuild noBean =>
    obtain ⟨front, label, keys, ref, info, names, isKey, writable⟩ := abreast.exists_names noBean
    have returns : Returns ⟨before ++ [.key key quoted], cursor.declared.element, [], fun _ => [],
        some rebuild⟩ keys := returns_of_keys isKey rfl
    obtain ⟨put, among, rfl⟩ := abreast.exists_mem_puts names returns value
    exact writable.trans (Accessor.isWritable_of_putAll done put among)

/-- A successful write without growth was described before: as writable, under the same path, and
with the type to which the raw value has been converted. The conversion is the only one. Whatever
the converter and the raw value are, the write fails with their conversion to that type, or it goes
on with the result. -/
theorem describe_foretells_set (observes : accessor.Observes world) (has : world.Has root)
    (off : options.growNested = false) {change : PropertyChange}
    (done : (accessor.setWith options root path raw).runOn world = (.ok change, after)) :
    ∃ descriptor seen, (accessor.describe root path).runOn world = (.ok descriptor, seen) ∧
      descriptor.isWritable = true ∧ descriptor.property = change.property ∧
      convertTo accessor.converter raw descriptor.type = .ok change.newValue ∧
      ∃ (walked : World) (finish : Value → Except AccessError PropertyChange × World),
        ∀ (converter : Converter) (raw' : Value),
          (({ accessor with converter := converter } : Accessor).setWith options root path
            raw').runOn world =
            match convertTo converter raw' descriptor.type with
            | .ok value => finish value
            | .error cause => (.error (.typeMismatch path.text cause), walked) := by
  obtain ⟨oldValue?, start, plan, right, value, read, toStart, planned, converted, carried, rfl⟩ :=
    carried_of_setWith observes has done
  obtain ⟨before, last, cursor, left, holder, wrap, plan', descriptor, segments, abreast, ends, rfl,
    described⟩ := exists_ends_of_planPath observes has off toStart planned
  obtain ⟨walked, target⟩ := abreast.wrap_walked plan'
  obtain ⟨property, type, ended⟩ := ends.property_eq
  have isText : Segment.render (wrap plan').walked = path.text := by
    rw [walked, ended, ← segments, PropertyPath.text]
  have isType : (wrap plan').target = descriptor.type := target.trans type.symm
  refine ⟨descriptor, left, described, abreast.isWritable_of_putAll ends carried, ?_,
    isType ▸ converted, right, fun value => (((putAll ((wrap plan').puts value)).runOn right).1.map
      fun _ => ⟨path.text, oldValue?, value⟩, ((putAll ((wrap plan').puts value)).runOn right).2),
    fun converter raw' => ?_⟩
  · rw [property, ← segments, PropertyPath.text]
  · have read' := (oldValue_withConverter accessor converter options root path) ▸ read
    have planned' := planPath_withConverter accessor converter options raw raw' root path ▸ planned
    have runs := runOn_setWith_of_plan read' planned'
    rw [isType, isText] at runs
    exact runs

end

/-! ## Friends of Eve -/

open Household in
/-- In the household everything can be observed. -/
theorem observes_household : accessor.Observes (world []) :=
  observes_of_plain layout.registry_plain (fits_world []) (by simp [world])

/-- The path to the name of a friend is read from its text. -/
theorem parse_name_of_friend : PropertyPath.parse "friends[0].name" =
    .ok ⟨.name "friends", [.key "0" false, .name "name"]⟩ := by
  decide +kernel

open Household in
/-- A friend of Eve is renamed as was foretold. -/
theorem describe_name_of_friend :
    let path : PropertyPath := ⟨.name "friends", [.key "0" false, .name "name"]⟩
    ∃ descriptor seen, (accessor.describe eve path).runOn (world []) = (.ok descriptor, seen) ∧
      descriptor.isWritable = true ∧ descriptor.property = path.text ∧
      convertTo accessor.converter (.text "Anna") descriptor.type = .ok (.text "Anna") ∧
      ∃ (walked : World) (finish : Value → Except AccessError PropertyChange × World),
        ∀ (converter : Converter) (raw' : Value),
          (({ accessor with converter := converter } : Accessor).setWith {} eve path
            raw').runOn (world []) =
            match convertTo converter raw' descriptor.type with
            | .ok value => finish value
            | .error cause => (.error (.typeMismatch path.text cause), walked) := by
  intro path
  have done : (accessor.setWith {} eve path (.text "Anna")).runOn (world []) =
      (.ok ⟨path.text, none, .text "Anna"⟩,
        ((accessor.setWith {} eve path (.text "Anna")).runOn (world [])).2) := rfl
  exact describe_foretells_set observes_household (has_eve []) rfl done

section

variable {accessor : Accessor} {world after : World} {root : BeanRef} {path : PropertyPath}
  {options : AccessOptions} {raw : Value}

/-! ## Writable properties -/

/-- The path goes, with a key, through the property of a name, and has a further name behind it. -/
structure Passes (accessor : Accessor) (world : World) (root : BeanRef) (path : PropertyPath)
    (front : List Segment) (label : String) (ref : BeanRef) (info : PropertyInfo) : Prop where
  split : ∃ key quoted rest, path.segments = front ++ .name label :: .key key quoted :: rest ∧
    ∃ segment ∈ rest, segment.isName = true
  reaches : accessor.Reaches world root front ref
  names : accessor.capability? ref.type label = some (.property info)

/-- A path is writable if it is described as writable. -/
theorem isWritable_iff {text : String} (parsed : PropertyPath.parse text = .ok path) :
    ((accessor.isWritable root text).run world).1 = true ↔
      ∃ descriptor seen, (accessor.describe root path).runOn world = (.ok descriptor, seen) ∧
        descriptor.isWritable = true := by
  rw [isWritable, describes_iff]
  simp [parsed]

/-- In front of the last segment the name is one that is entered with a key. -/
theorem Passes.names_before {front before : List Segment} {label : String} {ref : BeanRef}
    {info : PropertyInfo} {last : Segment}
    (passes : accessor.Passes world root path front label ref info)
    (segments : path.segments = before ++ [last]) :
    ∃ key quoted rest,
      accessor.Names world root before front label (.key key quoted :: rest) ref info := by
  obtain ⟨key, quoted, rest, split, segment, among, -⟩ := passes.split
  rcases rest.eq_nil_or_concat' with rfl | ⟨rest, last', rfl⟩
  · simp at among
  have whole : before ++ [last] = (front ++ .name label :: .key key quoted :: rest) ++ [last'] := by
    rw [← segments, split]
    simp
  exact ⟨key, quoted, rest, (List.append_inj' whole rfl).1, passes.reaches, passes.names⟩

/-- A property that the path passes is put back, so it is writable if a write succeeds. -/
theorem Passes.isWritable_of_set (observes : accessor.Observes world) (has : world.Has root)
    (off : options.growNested = false) {front : List Segment} {label : String} {ref : BeanRef}
    {info : PropertyInfo} (passes : accessor.Passes world root path front label ref info)
    {change : PropertyChange}
    (done : (accessor.setWith options root path raw).runOn world = (.ok change, after)) :
    info.isWritable = true := by
  obtain ⟨oldValue?, start, plan, right, value, -, toStart, planned, -, carried, rfl⟩ :=
    carried_of_setWith observes has done
  obtain ⟨before, last, cursor, left, holder, wrap, plan, descriptor, segments, abreast, -, rfl,
    -⟩ := exists_ends_of_planPath observes has off toStart planned
  obtain ⟨key, quoted, rest, names⟩ := passes.names_before segments
  have returns : Returns plan (.key key quoted :: rest) := .inl rfl
  obtain ⟨put, among, rfl⟩ := abreast.exists_mem_puts names returns value
  exact Accessor.isWritable_of_putAll carried put among

/-- Where a path is described as writable, what is put besides is writable or passed. -/
theorem Abreast.passes_of_mem_puts {request : WriteRequest} {start left right : World}
    {before : List Segment} {last : Segment} {cursor : Cursor} {holder value : Value}
    {wrap : Plan → Plan} {descriptor : PropertyDescriptor} {plan : Plan}
    (abreast : accessor.Abreast request world root start before cursor left holder right wrap)
    (segments : path.segments = before ++ [last])
    (ends : accessor.Ends before cursor last descriptor plan)
    (writable : descriptor.isWritable = true) {put : Put} (among : put ∈ (wrap plan).puts value)
    (sealed : put.info.isWritable = false) :
    ∃ front label ref, accessor.Passes world root path front label ref put.info ∧
      put.walked = front ++ [.name label] ∧ put.ref.type = ref.type := by
  rcases abreast.of_mem_puts among with among | ⟨front, label, rest, ref, names, walked, sameType,
    returns, same⟩
  · cases ends with
    | property label ref holder info core names =>
      obtain rfl := List.mem_singleton.1 among
      exact absurd writable (by simp_all)
    | slot => simp at among
  · have further : startsWithKey rest = true ∧
        ∃ segment ∈ rest ++ [last], segment.isName = true := by
      cases ends with
      | property label ref holder info core names =>
        refine ⟨returns.resolve_right (by simp), .name label, by simp, rfl⟩
      | slot key quoted rebuild noBean =>
        have named : ∃ segment ∈ rest, segment.isName = true := by
          by_contra isKey
          have kept := same (by simpa using isKey)
          change cursor.isWritable = true at writable
          simp [writable, sealed] at kept
        obtain ⟨segment, among, isName⟩ := named
        refine ⟨returns.resolve_right fun empty => ?_, segment, by simp [among], isName⟩
        simp [empty.1] at among
    obtain ⟨starts, segment, among, isName⟩ := further
    obtain ⟨key, quoted, rest, rfl⟩ := exists_key_of_startsWithKey starts
    refine ⟨front, label, ref, ⟨⟨key, quoted, rest ++ [last], ?_, segment, ?_, isName⟩,
      names.reaches, names.names⟩, walked, sameType⟩
    · simp [segments, names.split]
    · rcases List.mem_cons.1 among with rfl | among
      · simp [Segment.isName] at isName
      · exact among

/-- Where a path is writable, a write without growth is refused as not writable only for a property
that the path passes and that has no setter. Where there is such a property no write succeeds. -/
theorem isWritable_foretells_set (observes : accessor.Observes world) (has : world.Has root)
    {text : String} (parsed : PropertyPath.parse text = .ok path)
    (writable : ((accessor.isWritable root text).run world).1 = true) :
    (∀ options raw property owner names after, options.growNested = false →
      (accessor.setWith options root path raw).runOn world =
        (.error (.notWritable property owner names), after) →
      ∃ front label ref info, accessor.Passes world root path front label ref info ∧
        info.isWritable = false ∧
        .notWritable property owner names = readOnly (front ++ [.name label]) ref.type) ∧
    ∀ front label ref info, accessor.Passes world root path front label ref info →
      info.isWritable = false → ∀ options raw change after, options.growNested = false →
      (accessor.setWith options root path raw).runOn world ≠ (.ok change, after) := by
  constructor
  · intro options raw property owner names after off failed
    obtain ⟨descriptor, seen, described, writable⟩ := (isWritable_iff parsed).1 writable
    obtain ⟨oldValue?, start, read, toStart⟩ := runOn_oldValue observes has options path
    rcases exists_ends_of_describe ⟨raw, options⟩ observes has off toStart described
        writable with
      ⟨before, last, cursor, left, holder, right, wrap, plan, segments, abreast, ends, planned⟩ |
      ⟨-, _, _, _, right, unplanned⟩
    · rw [runOn_setWith_of_plan read planned] at failed
      cases converted : convertTo accessor.converter raw (wrap plan).target with
      | error cause => simp [converted] at failed
      | ok value =>
        rw [converted] at failed
        rcases carried : (putAll ((wrap plan).puts value)).runOn right with ⟨(error | _), last'⟩
        · obtain ⟨put, among, refused⟩ := putRefused_of_putAll carried
          obtain rfl : error = .notWritable property owner names := by
            simpa [carried, Except.map] using (Prod.mk.inj failed).1
          rcases refused with ⟨sealed, same⟩ | ⟨cause, same⟩
          · obtain ⟨front, label, ref, passes, walked, sameType⟩ :=
              abreast.passes_of_mem_puts segments ends writable among sealed
            exact ⟨front, label, ref, put.info, passes, sealed, by rw [same, walked, sameType]⟩
          · simp at same
        · simp [carried, Except.map] at failed
    · rw [runOn_setWith_of_unplanned read unplanned] at failed
      simp at failed
  · intro front label ref info passes sealed options raw change after off done
    simp [passes.isWritable_of_set observes has off done] at sealed

end

open Household in
/-- The friends of a person can be read but not written. Then the name of a friend is described as
writable, but the write is refused for the list of friends. -/
theorem set_name_of_friend_is_refused :
    let reader := accessor.reading person "friends"
    let path : PropertyPath := ⟨.name "friends", [.key "0" false, .name "name"]⟩
    reader.Observes (world []) ∧ (world []).Has eve ∧
      PropertyPath.parse "friends[0].name" = .ok path ∧
      ((reader.isWritable eve "friends[0].name").run (world [])).1 = true ∧
      ∃ after, (reader.setWith {} eve path (.text "Anna")).runOn (world []) =
        (.error (.notWritable "friends" person []), after) := by
  intro reader path
  exact ⟨observes_household.reading person "friends", has_eve [], parse_name_of_friend,
    (isWritable_iff parse_name_of_friend).2 ⟨_, _, rfl, rfl⟩, _, rfl⟩

open Household in
/-- It is refused for a property that the path passes, as every such write is, and none succeeds. -/
theorem isWritable_name_of_friend :
    let reader := accessor.reading person "friends"
    let path : PropertyPath := ⟨.name "friends", [.key "0" false, .name "name"]⟩
    (∀ options raw property owner names after, options.growNested = false →
      (reader.setWith options eve path raw).runOn (world []) =
        (.error (.notWritable property owner names), after) →
      ∃ front label ref info, reader.Passes (world []) eve path front label ref info ∧
        info.isWritable = false ∧
        .notWritable property owner names = readOnly (front ++ [.name label]) ref.type) ∧
    ∀ front label ref info, reader.Passes (world []) eve path front label ref info →
      info.isWritable = false → ∀ options raw change after, options.growNested = false →
      (reader.setWith options eve path raw).runOn (world []) ≠ (.ok change, after) := by
  intro reader path
  exact isWritable_foretells_set (observes_household.reading person "friends") (has_eve [])
    parse_name_of_friend ((isWritable_iff parse_name_of_friend).2 ⟨_, _, rfl, rfl⟩)

end PropertyGraph.Accessor
