import PropertyGraph.Proofs.Path.Front
import PropertyGraph.Proofs.Read.Observation
import PropertyGraph.Proofs.Write.Quiet

/-!
# Reads and writes go abreast

Reading a path and walking it for a write are two recursions over the same segments. Where getters
only look and absent values are not made, they go abreast: at every segment but the last both of
them fail, or both go on, with the same value or with handles of the same type, and with the same
declared type. Where they fail they fail alike, except that a value that is absent for the read is
one that the write may not make. What the write does on its way back adds a frame to the plan at
every segment.
-/
namespace PropertyGraph

/-- Errors of a read and of a write that fail alike at a property. -/
inductive AccessError.Alike (property : String) : AccessError → AccessError → Prop
  | notReadable (owner : TypeRef) :
    Alike property (.notReadable property owner) (.notReadable property owner)
  | invalid (owner other : TypeRef) (reason reason' : InvalidReason) :
    Alike property (.invalidProperty property owner reason)
      (.invalidProperty property other reason')
  | invocation (owner : TypeRef) (cause : InvocationError) :
    Alike property (.invocationFailed property owner cause)
      (.invocationFailed property owner cause)
  | absent (owner : TypeRef) :
    Alike property (.nullValue property owner) (.growFailed property owner .disabled)

namespace Accessor

/-- What a segment adds to the plan of what is behind it, with the properties by which the slot
behind it is known. -/
inductive Frames (accessor : Accessor) (before : List Segment) (cursor : Cursor) :
    Segment → Cursor → (Plan → Plan) → Prop
  | property (label : String) (next : Cursor) (ref holder : BeanRef) (info : PropertyInfo) :
    cursor.value.core = .bean ref → holder.type = ref.type →
    accessor.capability? ref.type label = some (.property info) →
    next.isWritable = info.isWritable →
    Frames accessor before cursor (.name label) next
      (·.behindProperty (before ++ [.name label]) holder info)
  | handle (label : String) (next : Cursor) (ref holder : BeanRef) :
    cursor.value.core = .bean ref → accessor.capability? ref.type label = some .handle →
    (∃ handle, next.value = .bean handle) → next.isWritable = false →
    Frames accessor before cursor (.name label) next (·.behindHandle holder)
  | slot (key : String) (quoted : Bool) (slot : Value) (rebuild : Value → Value) :
    (∀ ref, cursor.value.core ≠ .bean ref) →
    Frames accessor before cursor (.key key quoted) (cursor.element slot)
      (·.inCollection slot rebuild)

/-- A read and a write go on from a segment abreast. -/
structure StepsAbreast (accessor : Accessor) (request : WriteRequest) (world : World)
    (before : List Segment) (segment : Segment) (cursor : Cursor) (left : World) (holder : Value)
    (right : World) (next : Cursor) (left' : World) (child : Value) (right' : World)
    (frame : Plan → Plan) : Prop where
  steps : (accessor.step cursor before segment).runOn left = (.ok next, left')
  present : next.value.isAbsent = false
  plans : ∀ walk : Walk,
    (accessor.planStep request before segment (some walk) holder cursor.declared
      cursor.owner).runOn right = (frame <$> walk child next.declared next.owner).runOn right'
  toLeft : world.EvolvesTo [] left'
  toRight : world.EvolvesTo [] right'
  twins : Twins world left' right' next.value child
  frames : accessor.Frames before cursor segment next frame

/-- A read of a row of segments in a world and a walk over it in a later one have come to the end of
the row abreast. -/
inductive Abreast (accessor : Accessor) (request : WriteRequest) (world : World) (root : BeanRef)
    (start : World) : List Segment → Cursor → World → Value → World → (Plan → Plan) → Prop
  | root : Abreast accessor request world root start [] (.root root) world (.bean root) start id
  | step (before : List Segment) (segment : Segment) (cursor next : Cursor)
    (left left' right right' : World) (holder child : Value) (wrap frame : Plan → Plan) :
    Abreast accessor request world root start before cursor left holder right wrap →
    accessor.StepsAbreast request world before segment cursor left holder right next left' child
      right' frame →
    Abreast accessor request world root start (before ++ [segment]) next left' child right'
      (fun plan => wrap (frame plan))

section

variable {accessor : Accessor} {request : WriteRequest} {world left right : World} {cursor : Cursor}
  {before : List Segment} {segment : Segment} {holder : Value}

/-! ## One segment -/

/-- The read and the walk of a segment fail alike, whatever is behind it. -/
def FailAbreast (accessor : Accessor) (request : WriteRequest) (before : List Segment)
    (segment : Segment) (cursor : Cursor) (left : World) (holder : Value) (right : World) : Prop :=
  ∃ error fault, AccessError.Alike (Segment.render (before ++ [segment])) error fault ∧
    (∀ next later,
      (accessor.navigate cursor before segment (next :: later)).FailsWith left error) ∧
    ∀ walk : Walk, (accessor.planStep request before segment (some walk) holder cursor.declared
      cursor.owner).FailsWith right fault

/-- A read fails at a value that is absent. -/
theorem navigate_of_absent {next : Cursor}
    (steps : (accessor.step cursor before segment).runOn left = (.ok next, left))
    (absent : next.value.isAbsent = true) (further : Segment) (later : List Segment) :
    (accessor.navigate cursor before segment (further :: later)).FailsWith left
      (.nullValue (Segment.render (before ++ [segment])) next.owner) := by
  refine .bind_of_ok steps (.refl _ _) ?_
  simp only [absent, ↓reduceIte, Access.throw_bind]
  exact .throw _ _

variable (accessor before) in
/-- An element that is present is entered. -/
theorem planStep_slot (off : request.options.growNested = false) {key : String} {quoted : Bool}
    {slot : Value} (found : holder.slot? (.key key quoted) = some slot) :
    ∃ rebuild, ∀ (walk : Walk) (declared : DeclaredType) (owner : TypeRef),
      accessor.planStep request before (.key key quoted) (some walk) holder declared owner =
        if slot.isAbsent then
          throw (.growFailed (Segment.render (before ++ [.key key quoted])) owner .disabled)
        else (·.inCollection slot rebuild) <$> walk slot declared.element owner := by
  simp only [Value.slot?] at found
  split at found
  case h_1 items core =>
    obtain ⟨index, isIndex, found⟩ := Option.bind_eq_some_iff.1 found
    have bounded : index < items.length := (List.getElem?_eq_some_iff.1 found).1
    refine ⟨fun slot => (Value.list (items.set index slot)).wrap holder.depth,
      fun walk declared owner => ?_⟩
    simp only [planStep, core, listIndex, isIndex, extendTo_quiet off, bounded, ↓reduceIte,
      pure_bind, found, Option.getD_some, planSlot, enterSlot_quiet off, map_eq_pure_bind]
    split <;> simp
  case h_2 entries core =>
    refine ⟨fun slot => (Value.map (Entries.insert key slot entries)).wrap holder.depth,
      fun walk declared owner => ?_⟩
    simp only [planStep, core, found, Option.getD_some, planSlot, enterSlot_quiet off,
      map_eq_pure_bind]
    split <;> simp
  case h_3 => simp at found

variable (accessor before) in
/-- Where a segment leads to no element, the read and the walk refuse it; or the read finds an
absent value, which the walk may not make. -/
theorem missing_abreast (off : request.options.growNested = false)
    (noBean : ∀ ref, cursor.value.core ≠ .bean ref)
    (missing : cursor.value.slot? segment = none) :
    (∃ reason reason',
      accessor.step cursor before segment =
        throw (.invalidProperty (Segment.render (before ++ [segment])) cursor.owner reason) ∧
      ∀ walk : Walk, accessor.planStep request before segment (some walk) cursor.value
        cursor.declared cursor.owner =
          throw (.invalidProperty (Segment.render (before ++ [segment])) cursor.owner reason')) ∨
    accessor.step cursor before segment = pure (cursor.element .null) ∧
      ∀ walk : Walk, accessor.planStep request before segment (some walk) cursor.value
        cursor.declared cursor.owner =
          throw (.growFailed (Segment.render (before ++ [segment])) cursor.owner .disabled) := by
  have unwrapped := Value.unwrapped_eq_core cursor.value
  cases segment with
  | name label =>
    cases core : cursor.value.core with
    | bean ref => exact absurd core (noBean ref)
    | _ =>
      exact .inl ⟨_, _, by simp only [step, unwrapped, core]; rfl,
        fun walk => by simp only [planStep, core]; rfl⟩
  | key key quoted =>
    simp only [Value.slot?] at missing
    cases core : cursor.value.core with
    | bean ref => exact absurd core (noBean ref)
    | list items =>
      rw [core] at missing unwrapped
      cases isIndex : listIndex? key with
      | none =>
        refine .inl ⟨.notAnIndex key, .notAnIndex key, ?_, fun walk => ?_⟩
        · simp [step, unwrapped, Value.isAbsent, listIndex, isIndex]
        · simp [planStep, core, listIndex, isIndex]
      | some index =>
        simp only [isIndex, Option.bind_some] at missing
        have beyond : ¬ index < items.length := Nat.not_lt.2 (List.getElem?_eq_none_iff.1 missing)
        refine .inl ⟨.outOfBounds index items.length, .outOfBounds index items.length, ?_,
          fun walk => ?_⟩
        · simp [step, unwrapped, Value.isAbsent, listIndex, isIndex, missing]
        · simp [planStep, core, listIndex, isIndex, extendTo_quiet off, beyond]
    | map entries =>
      rw [core] at missing unwrapped
      refine .inr ⟨?_, fun walk => ?_⟩
      · simp [step, unwrapped, Value.isAbsent, missing]
      · simp [planStep, core, missing, planSlot, enterSlot_quiet off, Value.isAbsent]
    | _ =>
      exact .inl ⟨_, _, by simp only [step, unwrapped, core]; rfl,
        fun walk => by simp only [planStep, core]; rfl⟩

/-- At a value that is no bean the read and the write go on side by side, or both of them fail. -/
theorem slot_abreast (off : request.options.growNested = false) (toLeft : world.EvolvesTo [] left)
    (toRight : world.EvolvesTo [] right) (admitted : world.Admits cursor.value)
    (noBean : ∀ ref, cursor.value.core ≠ .bean ref) :
    accessor.FailAbreast request before segment cursor left cursor.value right ∨
      ∃ next left' child right' frame, accessor.StepsAbreast request world before segment cursor
        left cursor.value right next left' child right' frame := by
  cases found : cursor.value.slot? segment with
  | none =>
    rcases missing_abreast accessor before off noBean found with
      ⟨reason, reason', refuses, refuses'⟩ | ⟨reads, refuses⟩
    · refine .inl ⟨_, _, .invalid cursor.owner cursor.owner reason reason',
        fun next later => ?_, fun walk => ?_⟩
      · rw [navigate, refuses]
        exact .bind (.throw _ _) _
      · rw [refuses']
        exact .throw _ _
    · have steps : (accessor.step cursor before segment).runOn left =
          (.ok (cursor.element .null), left) := by rw [reads, Access.runOn_pure]
      refine .inl ⟨_, _, .absent (cursor.element .null).owner, navigate_of_absent steps rfl,
        fun walk => ?_⟩
      rw [refuses]
      exact .throw _ _
  | some slot =>
    cases segment with
    | name label => simp [Value.slot?] at found
    | key key quoted =>
      have steps : (accessor.step cursor before (.key key quoted)).runOn left =
          (.ok (cursor.element slot), left) := runOn_step_key found
      obtain ⟨rebuild, plans⟩ := planStep_slot accessor before off found
      by_cases absent : slot.isAbsent
      · refine .inl ⟨_, _, .absent (cursor.element slot).owner, navigate_of_absent steps absent,
          fun walk => ?_⟩
        rw [plans, if_pos absent]
        exact .throw _ _
      · have present : slot.isAbsent = false := by simpa using absent
        refine .inr ⟨_, left, slot, right, _, steps, present, fun walk => ?_, toLeft,
          toRight, .same slot (admitted.slot? found), .slot key quoted slot rebuild noBean⟩
        rw [plans, if_neg absent]
        rfl

/-- A property is read and entered, or neither. -/
theorem property_abreast (off : request.options.growNested = false)
    (toLeft : world.EvolvesTo [] left) (toRight : world.EvolvesTo [] right)
    {ref ref' : BeanRef} {label : String} {info : PropertyInfo}
    (core : cursor.value.core = .bean ref) (core' : holder.core = .bean ref')
    (sameType : ref'.type = ref.type)
    (names : accessor.capability? ref.type label = some (.property info))
    {outcome : Except AccessError Value}
    (reads : (Access.invoke (before ++ [.name label]) ref (·.read ref info)).runOn left =
      (outcome, left))
    (reads' : (Access.invoke (before ++ [.name label]) ref' (·.read ref' info)).runOn right =
      (outcome, right))
    (admits : ∀ value, outcome = .ok value → world.Admits value) :
    accessor.FailAbreast request before (.name label) cursor left holder right ∨
      ∃ next left' child right' frame, accessor.StepsAbreast request world before (.name label)
        cursor left holder right next left' child right' frame := by
  have unwrapped : cursor.value.unwrapped = .bean ref := by
    simp [Value.unwrapped_eq_core, core, Value.isAbsent]
  by_cases readable : info.isReadable
  case neg =>
    refine .inl ⟨_, _, .notReadable ref.type, fun next later => ?_, fun walk => ?_⟩
    · simp only [navigate, step, unwrapped, readName, names, readable]
      exact .bind (.throw _ _) _
    · simp only [planStep, core', planBelow, sameType, names, readable]
      exact .throw _ _
  cases outcome with
  | error error =>
    obtain ⟨cause, rfl⟩ : ∃ cause,
        error = .invocationFailed (Segment.render (before ++ [.name label])) ref.type cause := by
      rw [Access.runOn_invoke] at reads
      cases shown : (left.read ref info).1 with
      | error cause => exact ⟨cause, by simpa [shown] using (Prod.mk.inj reads).1.symm⟩
      | ok value => simp [shown] at reads
    refine .inl ⟨_, _, .invocation ref.type cause, fun next later => ?_, fun walk => ?_⟩
    · simp only [navigate, step, unwrapped, readName, names, readable, ↓reduceIte]
      exact .bind (.bind ⟨left, reads, .refl _ _⟩ _) _
    · simp only [planStep, core', planBelow, sameType, names, readable, ↓reduceIte]
      exact .bind (.bind ⟨right, reads', .refl _ _⟩ _) _
  | ok value =>
    have steps : (accessor.step cursor before (.name label)).runOn left =
        (.ok ⟨value, info.type, ref.type, true, info.isWritable⟩, left) := by
      simp only [step, unwrapped, readName, names, readable, ↓reduceIte]
      rw [Access.runOn_bind_of_ok reads, Access.runOn_pure]
    by_cases absent : value.isAbsent
    · refine .inl ⟨_, _, .absent ref.type, navigate_of_absent steps absent, fun walk => ?_⟩
      simp only [planStep, core', planBelow, sameType, names, readable, ↓reduceIte, enter,
        bind_assoc]
      refine .bind_of_ok reads' (.refl _ _) ?_
      simp only [absent, ↓reduceIte, growIfAllowed, off, Bool.false_eq_true, Access.throw_bind]
      exact .throw _ _
    · have present : value.isAbsent = false := by simpa using absent
      refine .inr ⟨_, left, value, right, _, steps, present, fun walk => ?_, toLeft, toRight,
        .same value (admits value rfl), .property label _ ref ref' info core sameType names rfl⟩
      simp only [planStep, core', planBelow, sameType, names, readable, ↓reduceIte, enter,
        bind_assoc, map_eq_pure_bind]
      rw [Access.runOn_bind_of_ok reads']
      simp only [absent, Bool.false_eq_true, ↓reduceIte, pure_bind]

/-- At every segment with more behind it a read and a walk fail, or they go on abreast. -/
theorem steps_abreast (observes : accessor.Observes world)
    (off : request.options.growNested = false) (toLeft : world.EvolvesTo [] left)
    (toRight : world.EvolvesTo [] right) (twins : Twins world left right cursor.value holder)
    (before : List Segment) (segment : Segment) :
    accessor.FailAbreast request before segment cursor left holder right ∨
      ∃ next left' child right' frame, accessor.StepsAbreast request world before segment cursor
        left holder right next left' child right' frame := by
  have unwrapped := Value.unwrapped_eq_core cursor.value
  rcases cursor.value.core.not_bean_or_bean with noBean | ⟨ref, core⟩
  · obtain ⟨rfl, admitted⟩ := twins.eq_of_core noBean
    exact slot_abreast off toLeft toRight admitted noBean
  · obtain ⟨ref', core', sameType, reads⟩ := twins.read observes toLeft toRight core
    simp only [core, Value.isAbsent, Bool.false_eq_true, ↓reduceIte] at unwrapped
    cases segment with
    | key key quoted =>
      refine .inl ⟨_, _, .invalid cursor.owner ref'.type (.noElement .bean) (.noElement .bean),
        fun next later => ?_, fun walk => ?_⟩
      · simp only [navigate, step, unwrapped]
        exact .bind (.throw _ _) _
      · simp only [planStep, core']
        exact .throw _ _
    | name label =>
      cases names : accessor.capability? ref.type label with
      | none =>
        refine .inl ⟨_, _, .notReadable ref.type, fun next later => ?_, fun walk => ?_⟩
        · simp only [navigate, step, unwrapped, readName, names]
          exact .bind (.throw _ _) _
        · simp only [planStep, core', planBelow, sameType, names]
          exact .throw _ _
      | some found =>
        cases found with
        | property info =>
          obtain ⟨outcome, read, read', admits⟩ :=
            reads label info (describe?_of_capability? names) (before ++ [.name label])
          exact property_abreast off toLeft toRight core core' sameType names read read' admits
        | handle =>
          refine .inr ⟨⟨.bean (left.add (TypeHandle.bean ref.type)).1, .bean TypeHandle.type,
            ref.type, true, false⟩, _, _, _, _, ?_, rfl, fun walk => ?_, toLeft.trans (.of_add _ _),
            toRight.trans (.of_add _ _), .handles ref.type _ _
            (World.hasHandle_add observes.guarded toLeft ref.type)
            (World.hasHandle_add observes.guarded toRight ref.type),
            .handle label _ ref ref' core names ⟨_, rfl⟩ rfl⟩
          · simp only [step, unwrapped, readName, names]
            exact runOn_handleCursor _ _
          · simp only [planStep, core', planBelow, sameType, names, map_eq_pure_bind]
            exact Access.runOn_bind_of_ok (runOn_handleCursor _ _) _

end

/-! ## A row of segments -/

namespace Abreast

variable {accessor : Accessor} {request : WriteRequest} {world start left right : World}
  {root : BeanRef} {before : List Segment} {cursor : Cursor} {holder : Value} {wrap : Plan → Plan}

/-- Neither of the two has changed a bean. -/
theorem evolves (toStart : world.EvolvesTo [] start)
    (abreast : accessor.Abreast request world root start before cursor left holder right wrap) :
    world.EvolvesTo [] left ∧ world.EvolvesTo [] right := by
  cases abreast with
  | root => exact ⟨.refl _ _, toStart⟩
  | step _ _ _ _ _ _ _ _ _ _ _ _ _ steps => exact ⟨steps.toLeft, steps.toRight⟩

/-- The values that both have come to are twins. -/
theorem twins (has : world.Has root)
    (abreast : accessor.Abreast request world root start before cursor left holder right wrap) :
    Twins world left right cursor.value holder := by
  cases abreast with
  | root => exact .same _ (.bean root has)
  | step _ _ _ _ _ _ _ _ _ _ _ _ _ steps => exact steps.twins

/-- What the read has come to is present. -/
theorem present
    (abreast : accessor.Abreast request world root start before cursor left holder right wrap) :
    cursor.value.isAbsent = false := by
  cases abreast with
  | root => rfl
  | step _ _ _ _ _ _ _ _ _ _ _ _ _ steps => exact steps.present

/-- The read has come to where the two are. -/
theorem comesTo
    (abreast : accessor.Abreast request world root start before cursor left holder right wrap) :
    accessor.ComesTo world root before cursor left := by
  induction abreast with
  | root => exact .root
  | step before segment cursor next left left' _ _ _ _ _ _ abreast steps ih =>
    exact .step before segment cursor next left left' ih abreast.present steps.steps

/-- The walk over a path goes on from where it has come to. -/
theorem plans
    (abreast : accessor.Abreast request world root start before cursor left holder right wrap)
    {first segment : Segment} {rest later : List Segment}
    (split : first :: rest = before ++ segment :: later) :
    (accessor.planInto request [] first rest (.bean root) (.bean root.type) root.type).runOn start =
      (wrap <$> accessor.planInto request before segment later holder cursor.declared
        cursor.owner).runOn right := by
  induction abreast generalizing segment later with
  | root =>
    obtain ⟨rfl, rfl⟩ := List.cons.inj split
    rw [id_map]
    rfl
  | step before earlier cursor next left left' right right' holder child wrap frame _ steps ih =>
    rw [ih (by simpa using split), planInto, Access.runOn_map, steps.plans, Access.runOn_map,
      Access.runOn_map]
    cases ((accessor.planInto request (before ++ [earlier]) segment later child next.declared
      next.owner).runOn right').1 <;> rfl

/-- A read and a walk of a path fail alike at a segment before the last, or they come abreast to the
last segment. -/
theorem toLast (observes : accessor.Observes world) (off : request.options.growNested = false)
    (has : world.Has root) (toStart : world.EvolvesTo [] start)
    (abreast : accessor.Abreast request world root start before cursor left holder right wrap)
    {first segment : Segment} {rest later : List Segment}
    (split : first :: rest = before ++ segment :: later) :
    (∃ front label behind error fault after, first :: rest = front ++ label :: behind ∧
      behind ≠ [] ∧ AccessError.Alike (Segment.render (front ++ [label])) error fault ∧
      (accessor.navigate (.root root) [] first rest).FailsWith world error ∧
      (accessor.planInto request [] first rest (.bean root) (.bean root.type) root.type).runOn
        start = (.error fault, after) ∧ world.EvolvesTo [] after) ∨
      ∃ before' last cursor' left' holder' right' wrap', first :: rest = before' ++ [last] ∧
        accessor.Abreast request world root start before' cursor' left' holder' right' wrap' := by
  induction later generalizing before segment cursor left holder right wrap with
  | nil => exact .inr ⟨before, segment, cursor, left, holder, right, wrap, split, abreast⟩
  | cons next later ih =>
    obtain ⟨toLeft, toRight⟩ := abreast.evolves toStart
    rcases steps_abreast observes off toLeft toRight (abreast.twins has) before segment with
      ⟨error, fault, alike, reads, walks⟩ | ⟨cursor', left', child, right', frame, steps⟩
    · obtain ⟨after, read, further⟩ := reads next later
      obtain ⟨after', walked, further'⟩ :=
        walks (accessor.planInto request (before ++ [segment]) next later)
      have walkedOn := abreast.comesTo.navigate abreast.present split
      refine .inl ⟨before, segment, next :: later, error, fault, after', split, by simp, alike,
        ⟨after, walkedOn.trans read, toLeft.trans further⟩, ?_, toRight.trans further'⟩
      rw [abreast.plans split, Access.runOn_map, planInto, walked]
      rfl
    · exact ih (abreast.step before segment cursor cursor' left left' right right' holder child wrap
        frame steps) (by simpa using split)

end Abreast

/-- A read and a walk of a path fail alike at a segment that is not the last. -/
structure FailAlike (accessor : Accessor) (request : WriteRequest) (world : World) (root : BeanRef)
    (start : World) (path : PropertyPath) (count : Nat) (error fault : AccessError)
    (after : World) : Prop where
  positive : 0 < count
  within : count < path.length
  alike : AccessError.Alike (path.front count) error fault
  reads : (accessor.parent root path).FailsWith world error
  walks : (accessor.planPath request root path).runOn start = (.error fault, after)
  evolves : world.EvolvesTo [] after

/-- A read of a path and a walk over it fail alike, or they come abreast to its last segment. -/
theorem exists_abreast {accessor : Accessor} (request : WriteRequest) {world start : World}
    {root : BeanRef} (observes : accessor.Observes world)
    (off : request.options.growNested = false) (has : world.Has root)
    (toStart : world.EvolvesTo [] start) (path : PropertyPath) :
    (∃ count error fault after,
      accessor.FailAlike request world root start path count error fault after) ∨
      ∃ before last cursor left holder right wrap, path.segments = before ++ [last] ∧
        accessor.Abreast request world root start before cursor left holder right wrap := by
  have whole : path.first :: path.later = [] ++ path.first :: path.later := rfl
  rcases Abreast.root.toLast observes off has toStart whole with
    ⟨front, label, behind, error, fault, after, split, more, alike, reads, walks, evolves⟩ | abreast
  · have isSegment : path.segments = front ++ label :: behind := split
    rw [← PropertyPath.front_of_split isSegment] at alike
    exact .inl ⟨front.length + 1, error, fault, after, by omega,
      (PropertyPath.length_of_split isSegment).2.2 more, alike, reads, walks, evolves⟩
  · exact .inr abreast

namespace Abreast

variable {accessor : Accessor} {request : WriteRequest} {world start left right : World}
  {root : BeanRef} {before : List Segment} {last : Segment} {cursor : Cursor} {holder : Value}
  {wrap : Plan → Plan} {path : PropertyPath}

/-- The read stops before the last segment of its path. -/
theorem parent
    (abreast : accessor.Abreast request world root start before cursor left holder right wrap)
    (segments : path.segments = before ++ [last]) :
    (accessor.parent root path).runOn world = (.ok ⟨cursor, before, last⟩, left) :=
  parent_eq_ok_iff.2 ⟨segments, abreast.comesTo, abreast.present⟩

/-- The write has its last segment left to plan. -/
theorem planPath
    (abreast : accessor.Abreast request world root start before cursor left holder right wrap)
    (segments : path.segments = before ++ [last]) :
    (accessor.planPath request root path).runOn start =
      (wrap <$> accessor.planStep request before last none holder cursor.declared
        cursor.owner).runOn right :=
  abreast.plans segments

end Abreast

/-! ## Reads before a write -/

section

variable {accessor : Accessor} {world left right : World} {root : BeanRef} {cursor : Cursor}
  {holder : Value}

/-- A step of a read brings in handles at most. -/
theorem step_evolves (observes : accessor.Observes world) (toLeft : world.EvolvesTo [] left)
    (twins : Twins world left right cursor.value holder) (before : List Segment)
    (segment : Segment) :
    world.EvolvesTo [] ((accessor.step cursor before segment).runOn left).2 := by
  have unwrapped := Value.unwrapped_eq_core cursor.value
  rcases cursor.value.core.not_bean_or_bean with noBean | ⟨ref, core⟩
  · cases found : cursor.value.slot? segment with
    | some slot =>
      rw [runOn_step_key found]
      exact toLeft
    | none =>
      have off : (⟨.null, {}⟩ : WriteRequest).options.growNested = false := rfl
      rcases missing_abreast accessor before off noBean found with
        ⟨_, _, refuses, -⟩ | ⟨reads, -⟩
      · rw [refuses]
        exact toLeft
      · rw [reads]
        exact toLeft
  · obtain ⟨ref', core', -, reads⟩ := twins.alone.read observes toLeft toLeft core
    simp only [core, Value.isAbsent, Bool.false_eq_true, ↓reduceIte] at unwrapped
    cases segment with
    | key key quoted =>
      simp only [step, unwrapped]
      exact toLeft
    | name label =>
      simp only [step, unwrapped, readName]
      cases names : accessor.capability? ref.type label with
      | none => exact toLeft
      | some found =>
        cases found with
        | handle => exact toLeft.trans (.of_add _ _)
        | property info =>
          obtain ⟨outcome, read, -, -⟩ :=
            reads label info (describe?_of_capability? names) (before ++ [.name label])
          by_cases readable : info.isReadable
          · simp only [readable, ↓reduceIte]
            rw [Access.runOn_bind, read]
            cases outcome <;> exact toLeft
          · simp only [readable]
            exact toLeft

/-- A read brings in handles at most. -/
theorem get_evolves (observes : accessor.Observes world) (has : world.Has root)
    (path : PropertyPath) : world.EvolvesTo [] ((accessor.get root path).runOn world).2 := by
  rcases exists_abreast ⟨.null, {}⟩ observes rfl has (.refl world []) path with
    ⟨_, _, _, _, fails⟩ | ⟨before, last, cursor, left, holder, right, wrap, segments, abreast⟩
  · obtain ⟨after, failed, evolves⟩ := fails.reads
    rw [get, Access.runOn_bind_of_error failed]
    exact evolves
  · rw [get, Access.runOn_bind_of_ok (abreast.parent segments), Access.runOn_bind]
    have further := step_evolves observes (abreast.evolves (.refl _ _)).1 (abreast.twins has) before
      last
    split <;> exact further

/-- The old value is read or left out; handles come in at most. -/
theorem runOn_oldValue (observes : accessor.Observes world) (has : world.Has root)
    (options : AccessOptions) (path : PropertyPath) :
    ∃ oldValue? start, (accessor.oldValue options root path).runOn world = (.ok oldValue?, start) ∧
      world.EvolvesTo [] start := by
  obtain ⟨start, read, evolves⟩ := oldValue_runs_of_evolves (get_evolves observes has path) options
  exact ⟨_, start, read, evolves⟩

end

end Accessor

end PropertyGraph
