import PropertyGraph.Proofs.Convert.Optional
import PropertyGraph.Proofs.Write.Abreast

/-!
# The way back of a write

What a write puts into properties after the raw value has been converted. Without growth the value
goes into the property of the last name of the path, and then, from the inside to the outside, every
property that the path enters with a key gets back what was read of it. Nothing else is put.
-/
namespace PropertyGraph.Accessor

/-- A row of segments is read as a bean. Handles may come into the world. -/
def Reaches (accessor : Accessor) (world : World) (root : BeanRef) : List Segment → BeanRef → Prop
  | [], ref => ref = root
  | first :: later, ref =>
    ∃ after, (accessor.get root ⟨first, later⟩).runOn world = (.ok (.bean ref), after)

/-- A row of segments reaches one bean. -/
theorem Reaches.unique {accessor : Accessor} {world : World} {root ref other : BeanRef}
    {segments : List Segment} (reaches : accessor.Reaches world root segments ref)
    (reaches' : accessor.Reaches world root segments other) : ref = other := by
  cases segments with
  | nil => exact Eq.trans reaches (Eq.symm reaches')
  | cons first later =>
    obtain ⟨after, read⟩ := reaches
    obtain ⟨after', read'⟩ := reaches'
    simpa using (Prod.mk.inj (read.symm.trans read')).1

/-- A name in a row of segments has something put into its property on the way back of a plan: a key
is behind it, or the plan for what is behind it has a copy. -/
def Returns (plan : Plan) (rest : List Segment) : Prop :=
  startsWithKey rest = true ∨ rest = [] ∧ plan.copy?.isSome = true

/-- If nothing but keys is behind a name and the plan has a copy, it is put into the property. -/
theorem returns_of_keys {plan : Plan} {keys : List Segment}
    (isKey : ∀ segment ∈ keys, segment.isName = false) (copies : plan.copy?.isSome = true) :
    Returns plan keys := by
  cases keys with
  | nil => exact .inr ⟨rfl, copies⟩
  | cons first rest =>
    have here := isKey first List.mem_cons_self
    cases first with
    | name label => simp [Segment.isName] at here
    | key key quoted => exact .inl rfl

/-- A row that starts with a key has one in front. -/
theorem exists_key_of_startsWithKey {segments : List Segment}
    (starts : startsWithKey segments = true) :
    ∃ key quoted rest, segments = .key key quoted :: rest := by
  unfold startsWithKey at starts
  split at starts
  · exact ⟨_, _, _, rfl⟩
  · simp at starts

/-- Whether a row starts with a key does not depend on how it goes on. -/
theorem startsWithKey_append (first : Segment) (rest later : List Segment) :
    startsWithKey (first :: rest ++ later) = startsWithKey (first :: rest) := by
  cases first <;> rfl

/-- The property of a name in a row of segments. -/
structure Names (accessor : Accessor) (world : World) (root : BeanRef) (segments : List Segment)
    (front : List Segment) (label : String) (rest : List Segment) (ref : BeanRef)
    (info : PropertyInfo) : Prop where
  split : segments = front ++ .name label :: rest
  reaches : accessor.Reaches world root front ref
  names : accessor.capability? ref.type label = some (.property info)

namespace Names

variable {accessor : Accessor} {world : World} {root ref : BeanRef}
  {segments front rest : List Segment} {label : String} {info : PropertyInfo}

/-- A name stays the name that it is when the row goes on. -/
theorem append (names : accessor.Names world root segments front label rest ref info)
    (segment : Segment) :
    accessor.Names world root (segments ++ [segment]) front label (rest ++ [segment]) ref info :=
  ⟨by simp [names.split], names.reaches, names.names⟩

end Names

namespace Abreast

variable {accessor : Accessor} {request : WriteRequest} {world start left right : World}
  {root ref : BeanRef} {before : List Segment} {cursor : Cursor} {holder : Value}
  {wrap : Plan → Plan}

/-- Reading a row of segments gives what it has come to. -/
theorem get {first : Segment} {later : List Segment}
    (abreast : accessor.Abreast request world root start (first :: later) cursor left holder right
      wrap) :
    (accessor.get root ⟨first, later⟩).runOn world = (.ok cursor.value.unwrapped, left) :=
  get_eq_ok_iff.2 ⟨cursor, abreast.comesTo, rfl⟩

/-- A read that has come to a bean reaches it. -/
theorem reaches
    (abreast : accessor.Abreast request world root start before cursor left holder right wrap)
    (core : cursor.value.core = .bean ref) : accessor.Reaches world root before ref := by
  cases before with
  | nil =>
    generalize none : ([] : List Segment) = segments at abreast
    cases abreast with
    | root => exact (Value.bean.inj core).symm
    | step => simp at none
  | cons first later =>
    have read := abreast.get
    rw [Value.unwrapped_eq_core, core] at read
    exact ⟨left, read⟩

/-- The frames leave the end of the path and the type there as they are. -/
theorem wrap_walked
    (abreast : accessor.Abreast request world root start before cursor left holder right wrap)
    (plan : Plan) : (wrap plan).walked = plan.walked ∧ (wrap plan).target = plan.target := by
  induction abreast generalizing plan with
  | root => exact ⟨rfl, rfl⟩
  | step _ _ _ _ _ _ _ _ _ _ _ frame _ steps ih =>
    obtain ⟨walked, target⟩ := ih (frame plan)
    cases steps.frames <;> exact ⟨walked, target⟩

/-- Behind a value that is no bean there is a name, and only keys behind that name. -/
theorem exists_names
    (abreast : accessor.Abreast request world root start before cursor left holder right wrap)
    (noBean : ∀ ref, cursor.value.core ≠ .bean ref) :
    ∃ front label keys ref info, accessor.Names world root before front label keys ref info ∧
      (∀ segment ∈ keys, segment.isName = false) ∧ cursor.isWritable = info.isWritable := by
  induction abreast with
  | root => exact absurd rfl (noBean root)
  | step before segment cursor next _ _ _ _ _ _ _ frame abreast steps ih =>
    cases steps.frames with
    | property label _ ref _ info core _ names writable =>
      exact ⟨before, label, [], ref, info, ⟨rfl, abreast.reaches core, names⟩, by simp, writable⟩
    | handle label _ ref _ core names isBean =>
      obtain ⟨handle, isBean⟩ := isBean
      exact absurd (by rw [isBean]; rfl) (noBean handle)
    | slot key quoted slot rebuild noBeanBefore =>
      obtain ⟨front, label, keys, ref, info, names, isKey, writable⟩ := ih noBeanBefore
      refine ⟨front, label, keys ++ [.key key quoted], ref, info, names.append _, ?_, writable⟩
      intro segment among
      rcases List.mem_append.1 among with among | among
      · exact isKey segment among
      · rw [List.mem_singleton.1 among]
        rfl

/-- What is put for what is behind is put with the frames, too. -/
theorem mem_puts_wrap
    (abreast : accessor.Abreast request world root start before cursor left holder right wrap)
    {plan : Plan} {value : Value} {put : Put} (among : put ∈ plan.puts value) :
    put ∈ (wrap plan).puts value := by
  induction abreast generalizing plan with
  | root => exact among
  | step _ _ _ _ _ _ _ _ _ _ _ frame _ steps ih =>
    refine ih ?_
    cases steps.frames with
    | property => exact List.mem_append_left _ among
    | handle => exact among
    | slot => exact among

/-- All that the frames put goes into the property of a name that is entered with a key. -/
theorem of_mem_puts
    (abreast : accessor.Abreast request world root start before cursor left holder right wrap)
    {plan : Plan} {value : Value} {put : Put} (among : put ∈ (wrap plan).puts value) :
    put ∈ plan.puts value ∨
      ∃ front label rest ref, accessor.Names world root before front label rest ref put.info ∧
        put.walked = front ++ [.name label] ∧ put.ref.type = ref.type ∧ Returns plan rest ∧
        ((∀ segment ∈ rest, segment.isName = false) →
          cursor.isWritable = put.info.isWritable) := by
  induction abreast generalizing plan with
  | root => exact .inl among
  | step before segment cursor next _ _ _ _ _ _ _ frame abreast steps ih =>
    rcases ih among with among | ⟨front, label, rest, ref, names, walked, sameType, returns,
      writable⟩
    · cases steps.frames with
      | property label _ ref holder info core sameType names writable =>
        rcases List.mem_append.1 among with among | among
        · exact .inl among
        · obtain ⟨copy, copies, rfl⟩ : ∃ copy, plan.copy? = some copy ∧
              ⟨before ++ [.name label], holder, info, copy value⟩ = put := by
            simpa using among
          exact .inr ⟨before, label, [], ref, ⟨rfl, abreast.reaches core, names⟩, rfl, sameType,
            .inr ⟨rfl, by rw [copies]; rfl⟩, fun _ => writable⟩
      | handle => exact .inl among
      | slot => exact .inl among
    · refine .inr ⟨front, label, rest ++ [segment], ref, names.append segment, walked, sameType, ?_,
        fun isKey => ?_⟩
      · rcases returns with starts | ⟨rfl, copies⟩
        · cases rest with
          | nil => simp [startsWithKey] at starts
          | cons first rest => exact .inl ((startsWithKey_append first rest [segment]).trans starts)
        · cases steps.frames with
          | property => simp [Plan.behindProperty] at copies
          | handle => simp [Plan.behindHandle] at copies
          | slot => exact .inl rfl
      · have here : segment.isName = false := isKey segment (by simp)
        cases steps.frames with
        | property => simp [Segment.isName] at here
        | handle => simp [Segment.isName] at here
        | slot => exact writable fun other among => isKey other (List.mem_append_left _ among)

/-- Something is put into the property of every name that is entered with a key. -/
theorem exists_mem_puts
    (abreast : accessor.Abreast request world root start before cursor left holder right wrap)
    {front rest : List Segment} {label : String} {info : PropertyInfo} {plan : Plan}
    (names : accessor.Names world root before front label rest ref info)
    (returns : Returns plan rest) (value : Value) :
    ∃ put ∈ (wrap plan).puts value, put.info = info := by
  induction abreast generalizing plan rest with
  | root => exact absurd names.split (by simp)
  | step before segment cursor next _ _ _ _ _ _ wrap frame abreast steps ih =>
    have split := names.split
    rcases rest.eq_nil_or_concat' with rfl | ⟨rest, last, rfl⟩
    · obtain ⟨rfl, last⟩ := List.append_inj' split rfl
      obtain rfl : segment = .name label := by simpa using last
      obtain ⟨copy, copies⟩ : ∃ copy, plan.copy? = some copy := by
        rcases returns with starts | ⟨-, copies⟩
        · simp [startsWithKey] at starts
        · exact Option.isSome_iff_exists.1 copies
      cases steps.frames with
      | property _ _ ref' holder info' core _ names' _ =>
        obtain rfl := (abreast.reaches core).unique names.reaches
        obtain rfl : info' = info := by simpa using names'.symm.trans names.names
        refine ⟨⟨before ++ [.name label], holder, info', copy value⟩, abreast.mem_puts_wrap ?_, rfl⟩
        simp [Plan.behindProperty, copies]
      | handle _ _ ref' holder core names' =>
        obtain rfl := (abreast.reaches core).unique names.reaches
        simp [names.names] at names'
    · obtain ⟨rfl, rfl⟩ : before = front ++ .name label :: rest ∧ segment = last := by
        have split : before ++ [segment] = (front ++ .name label :: rest) ++ [last] := by
          simpa using split
        obtain ⟨whole, last⟩ := List.append_inj' split rfl
        exact ⟨whole, by simpa using last⟩
      suffices returns : Returns (frame plan) rest from
        ih ⟨rfl, names.reaches, names.names⟩ returns
      cases rest with
      | cons first rest =>
        rcases returns with starts | ⟨empty, -⟩
        · exact .inl ((startsWithKey_append first rest [segment]).symm.trans starts)
        · simp at empty
      | nil =>
        rcases returns with starts | ⟨empty, -⟩
        · cases steps.frames with
          | property => simp [startsWithKey] at starts
          | handle => simp [startsWithKey] at starts
          | slot => exact .inr ⟨rfl, rfl⟩
        · simp at empty

end Abreast

/-! ## The last segment -/

section

variable {accessor : Accessor} {request : WriteRequest} {world start left right : World}
  {root : BeanRef} {before : List Segment} {last : Segment} {cursor : Cursor} {holder : Value}
  {path : PropertyPath} {options : AccessOptions}

/-- How a path ends: what its last segment is described as, and the plan to write it. -/
inductive Ends (accessor : Accessor) (before : List Segment) (cursor : Cursor) :
    Segment → PropertyDescriptor → Plan → Prop
  | property (label : String) (ref holder : BeanRef) (info : PropertyInfo) :
    cursor.value.core = .bean ref → accessor.capability? ref.type label = some (.property info) →
    info.isWritable = true →
    Ends accessor before cursor (.name label)
      ⟨Segment.render (before ++ [.name label]), ref.type, info.type, info.isReadable,
        info.isWritable⟩
      ⟨before ++ [.name label], info.type, [holder],
        fun value => [⟨before ++ [.name label], holder, info, value⟩], none⟩
  | slot (key : String) (quoted : Bool) (rebuild : Value → Value) :
    (∀ ref, cursor.value.core ≠ .bean ref) →
    Ends accessor before cursor (.key key quoted)
      ⟨Segment.render (before ++ [.key key quoted]), cursor.owner, cursor.declared.element,
        cursor.isReadable, cursor.isWritable⟩
      ⟨before ++ [.key key quoted], cursor.declared.element, [], fun _ => [], some rebuild⟩

/-- What is described of the last segment is what is planned for it: the path and the type. -/
theorem Ends.property_eq {descriptor : PropertyDescriptor} {plan : Plan}
    (ends : accessor.Ends before cursor last descriptor plan) :
    descriptor.property = Segment.render (before ++ [last]) ∧ descriptor.type = plan.target ∧
      plan.walked = before ++ [last] := by
  cases ends <;> exact ⟨rfl, rfl, rfl⟩

/-- What can be planned for the last segment has a description. -/
theorem ends_of_planStep (off : request.options.growNested = false)
    (twins : Twins world left right cursor.value holder) {plan : Plan} {right' : World}
    (planned : (accessor.planStep request before last none holder cursor.declared
      cursor.owner).runOn right = (.ok plan, right')) :
    right' = right ∧ ∃ descriptor,
      (accessor.describeStep cursor before last).runOn left = (.ok descriptor, left) ∧
        accessor.Ends before cursor last descriptor plan := by
  have unwrapped := Value.unwrapped_eq_core cursor.value
  rcases cursor.value.core.not_bean_or_bean with noBean | ⟨ref, core⟩
  · obtain ⟨rfl, -⟩ := twins.eq_of_core noBean
    obtain ⟨slot, rebuild, middle, opens, done⟩ := planStep_opens planned noBean
    simp only [planSlot, Access.runOn_pure, Prod.mk.injEq, Except.ok.injEq] at done
    obtain ⟨rfl, rfl⟩ := done
    cases opens with
    | list key quoted items extended index _ core isIndex lengthens =>
      rw [extendTo_quiet off] at lengthens
      split at lengthens
      case isTrue =>
        simp only [Access.runOn_pure, Prod.mk.injEq] at lengthens
        refine ⟨lengthens.2.symm, _, ?_, .slot key quoted _ noBean⟩
        simp [describeStep, unwrapped, core, Value.isAbsent, listIndex, isIndex]
      case isFalse => simp at lengthens
    | map key quoted entries core =>
      refine ⟨rfl, _, ?_, .slot key quoted _ noBean⟩
      simp [describeStep, unwrapped, core, Value.isAbsent]
  · obtain ⟨ref', core', sameType⟩ := twins.core core
    simp only [core, Value.isAbsent, Bool.false_eq_true, ↓reduceIte] at unwrapped
    cases last with
    | key key quoted => simp [planStep, core'] at planned
    | name label =>
      simp only [planStep, core', planLast, sameType] at planned
      split at planned
      case h_1 info names =>
        by_cases writable : info.isWritable
        · simp only [writable, ↓reduceIte, Access.runOn_pure, Prod.mk.injEq,
            Except.ok.injEq] at planned
          obtain ⟨rfl, rfl⟩ := planned
          refine ⟨rfl, _, ?_, .property label ref ref' info core names writable⟩
          simp [describeStep, unwrapped, names]
        · simp [writable] at planned
      case h_2 => simp at planned

/-- What is described as writable can be planned, unless it is a place beyond a list. -/
theorem ends_of_describeStep (off : request.options.growNested = false)
    (twins : Twins world left right cursor.value holder) {descriptor : PropertyDescriptor}
    {left' : World}
    (described : (accessor.describeStep cursor before last).runOn left = (.ok descriptor, left'))
    (writable : descriptor.isWritable = true) :
    (∃ plan, (accessor.planStep request before last none holder cursor.declared
        cursor.owner).runOn right = (.ok plan, right) ∧
      accessor.Ends before cursor last descriptor plan) ∨
    last.isName = false ∧
      ∃ property owner reason, (accessor.planStep request before last none holder cursor.declared
        cursor.owner).runOn right = (.error (.invalidProperty property owner reason), right) := by
  have unwrapped := Value.unwrapped_eq_core cursor.value
  rcases cursor.value.core.not_bean_or_bean with noBean | ⟨ref, core⟩
  · obtain ⟨rfl, -⟩ := twins.eq_of_core noBean
    cases last with
    | name label =>
      cases core : cursor.value.core with
      | bean ref => exact absurd core (noBean ref)
      | _ => simp [describeStep, unwrapped, core, Value.isAbsent] at described
    | key key quoted =>
      cases core : cursor.value.core with
      | bean ref => exact absurd core (noBean ref)
      | list items =>
        cases isIndex : listIndex? key with
        | none =>
          simp [describeStep, unwrapped, core, Value.isAbsent, listIndex, isIndex] at described
        | some index =>
          simp only [describeStep, unwrapped, core, Value.isAbsent, Bool.false_eq_true, ↓reduceIte,
            listIndex, isIndex, pure_bind, Access.runOn_pure, Prod.mk.injEq,
            Except.ok.injEq] at described
          obtain ⟨rfl, rfl⟩ := described
          by_cases inside : index < items.length
          · refine .inl ⟨_, ?_, .slot key quoted
              (fun slot => (Value.list (items.set index slot)).wrap cursor.value.depth) noBean⟩
            simp only [planStep, core, listIndex, isIndex, pure_bind, extendTo_quiet off, inside,
              ↓reduceIte, planSlot, Access.runOn_pure]
          · refine .inr ⟨rfl, Segment.render (before ++ [.key key quoted]), cursor.owner,
              .outOfBounds index items.length, ?_⟩
            simp [planStep, core, listIndex, isIndex, extendTo_quiet off, inside]
      | map entries =>
        simp only [describeStep, unwrapped, core, Value.isAbsent, Bool.false_eq_true, ↓reduceIte,
          Access.runOn_pure, Prod.mk.injEq, Except.ok.injEq] at described
        obtain ⟨rfl, rfl⟩ := described
        refine .inl ⟨_, ?_, .slot key quoted
          (fun slot => (Value.map (Entries.insert key slot entries)).wrap cursor.value.depth)
          noBean⟩
        simp only [planStep, core, planSlot, Access.runOn_pure]
      | _ => simp [describeStep, unwrapped, core, Value.isAbsent] at described
  · obtain ⟨ref', core', sameType⟩ := twins.core core
    simp only [core, Value.isAbsent, Bool.false_eq_true, ↓reduceIte] at unwrapped
    cases last with
    | key key quoted => simp [describeStep, unwrapped] at described
    | name label =>
      simp only [describeStep, unwrapped] at described
      split at described
      case h_1 info names =>
        simp only [Access.runOn_pure, Prod.mk.injEq, Except.ok.injEq] at described
        obtain ⟨rfl, rfl⟩ := described
        refine .inl ⟨_, ?_, .property label ref ref' info core names writable⟩
        change info.isWritable = true at writable
        simp [planStep, core', planLast, sameType, names, writable]
      case h_2 =>
        rw [Access.runOn_bind_of_ok (runOn_handleCursor _ _)] at described
        simp only [Access.runOn_pure, Prod.mk.injEq, Except.ok.injEq] at described
        rw [← described.1] at writable
        simp at writable
      case h_3 => simp at described

/-! ## Carrying out a plan -/

/-- What has been put was put into properties that can be written. -/
theorem isWritable_of_putAll {puts : List Put} {after : World}
    (done : (putAll puts).runOn world = (.ok (), after)) :
    ∀ put ∈ puts, put.info.isWritable = true := by
  induction puts generalizing world with
  | nil => simp
  | cons put puts ih =>
    obtain ⟨_, middle, puts, done⟩ := Access.runOn_bind_eq_ok_iff.1 done
    intro other among
    rcases List.mem_cons.1 among with rfl | among
    · by_contra sealed
      simp [putBack, sealed] at puts
    · exact ih done other among

/-- A row of puts fails with one that is refused. -/
theorem putRefused_of_putAll {puts : List Put} {error : AccessError} {after : World}
    (failed : (putAll puts).runOn world = (.error error, after)) :
    ∃ put ∈ puts, PutRefused put.walked put.ref.type put.info error := by
  obtain ⟨done, put, rest, middle, rfl, -, refused⟩ := putAll_eq_error_iff.1 failed
  exact ⟨put, by simp, putRefused_of_putBack refused⟩

/-- A successful write has planned its path, has converted the raw value and has put all. -/
theorem carried_of_setWith (observes : accessor.Observes world) (has : world.Has root) {raw : Value}
    {change : PropertyChange} {after : World}
    (done : (accessor.setWith options root path raw).runOn world = (.ok change, after)) :
    ∃ oldValue? start plan right value,
      (accessor.oldValue options root path).runOn world = (.ok oldValue?, start) ∧
      world.EvolvesTo [] start ∧
      (accessor.planPath ⟨raw, options⟩ root path).runOn start = (.ok plan, right) ∧
      convertTo accessor.converter raw plan.target = .ok value ∧
      (putAll (plan.puts value)).runOn right = (.ok (), after) ∧
      change = ⟨path.text, oldValue?, value⟩ := by
  obtain ⟨oldValue?, start, read, toStart⟩ := runOn_oldValue observes has options path
  rcases planned : (accessor.planPath ⟨raw, options⟩ root path).runOn start with
    ⟨(error | plan), right⟩
  · simp [runOn_setWith_of_unplanned read planned] at done
  rw [runOn_setWith_of_plan read planned] at done
  cases converted : convertTo accessor.converter raw plan.target with
  | error cause => simp [converted] at done
  | ok value =>
    rcases carried : (putAll (plan.puts value)).runOn right with ⟨(error | _), last⟩
    · simp [converted, carried, Except.map] at done
    obtain ⟨rfl, rfl⟩ : ⟨path.text, oldValue?, value⟩ = change ∧ last = after := by
      simpa [converted, carried, Except.map] using done
    exact ⟨oldValue?, start, plan, right, value, read, toStart, planned, converted, carried, rfl⟩

/-! ## Plans and descriptions -/

/-- A path that was planned is described. -/
theorem exists_ends_of_planPath (observes : accessor.Observes world) (has : world.Has root)
    (off : request.options.growNested = false) (toStart : world.EvolvesTo [] start) {plan : Plan}
    (planned : (accessor.planPath request root path).runOn start = (.ok plan, right)) :
    ∃ before last cursor left holder wrap plan' descriptor, path.segments = before ++ [last] ∧
      accessor.Abreast request world root start before cursor left holder right wrap ∧
      accessor.Ends before cursor last descriptor plan' ∧ wrap plan' = plan ∧
      (accessor.describe root path).runOn world = (.ok descriptor, left) := by
  rcases exists_abreast request observes off has toStart path with
    ⟨_, _, _, _, fails⟩ | ⟨before, last, cursor, left, holder, right, wrap, segments, abreast⟩
  · simpa [planned] using fails.walks
  rw [abreast.planPath segments, Access.runOn_map] at planned
  rcases ended : (accessor.planStep request before last none holder cursor.declared
    cursor.owner).runOn right with ⟨(error | plan'), right'⟩
  · simp [ended, Except.map] at planned
  obtain ⟨rfl, descriptor, described, ends⟩ := ends_of_planStep off (abreast.twins has) ended
  obtain ⟨rfl, rfl⟩ : wrap plan' = plan ∧ right' = _ := by simpa [ended, Except.map] using planned
  refine ⟨before, last, cursor, left, holder, wrap, plan', descriptor, segments, abreast, ends, rfl,
    ?_⟩
  rw [describe, Access.runOn_bind_of_ok (abreast.parent segments)]
  exact described

variable (request) in
/-- A path that is described as writable is planned, unless it ends beyond a list. -/
theorem exists_ends_of_describe (observes : accessor.Observes world) (has : world.Has root)
    (off : request.options.growNested = false) (toStart : world.EvolvesTo [] start)
    {descriptor : PropertyDescriptor} {seen : World}
    (described : (accessor.describe root path).runOn world = (.ok descriptor, seen))
    (writable : descriptor.isWritable = true) :
    (∃ before last cursor left holder right wrap plan, path.segments = before ++ [last] ∧
      accessor.Abreast request world root start before cursor left holder right wrap ∧
      accessor.Ends before cursor last descriptor plan ∧
      (accessor.planPath request root path).runOn start = (.ok (wrap plan), right)) ∨
    (∃ before last, path.segments = before ++ [last] ∧ last.isName = false) ∧
      ∃ property owner reason right, (accessor.planPath request root path).runOn start =
        (.error (.invalidProperty property owner reason), right) := by
  rcases exists_abreast request observes off has toStart path with
    ⟨_, _, _, _, fails⟩ | ⟨before, last, cursor, left, holder, right, wrap, segments, abreast⟩
  · obtain ⟨last, failed, -⟩ := fails.reads
    simp [describe, Access.runOn_bind_of_error failed] at described
  rw [describe, Access.runOn_bind_of_ok (abreast.parent segments)] at described
  have planned := abreast.planPath segments
  rw [Access.runOn_map] at planned
  rcases ends_of_describeStep off (abreast.twins has) described writable with
    ⟨plan, ended, ends⟩ | ⟨isKey, property, owner, reason, ended⟩
  · rw [ended] at planned
    exact .inl ⟨before, last, cursor, left, holder, right, wrap, plan, segments, abreast, ends,
      planned⟩
  · rw [ended] at planned
    exact .inr ⟨⟨before, last, segments, isKey⟩, property, owner, reason, right, planned⟩

end

end PropertyGraph.Accessor
