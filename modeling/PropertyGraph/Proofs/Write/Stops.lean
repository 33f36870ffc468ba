import PropertyGraph.Proofs.Access.Fields
import PropertyGraph.Proofs.Write.Aliases

/-!
# Where a write stops

A write that fails has come down to a segment of its path and does not get beyond it: the segment
cannot be passed, or it ends the path and is refused, or what is behind it has been written and the
changed copy cannot be put back (`FailsAt`). Whichever it is, the error tells of the row up to the
segment and of one bean type: that of the bean the segment is looked up on, or else that of the slot
that holds what is there (`Refused`).
-/
namespace PropertyGraph

/-! ## Errors of an access -/

/-- Whatever the world is, the access fails with such errors only. -/
def Access.FailsAs {α : Type} (errors : AccessError → Prop) (access : Access α) : Prop :=
  ∀ world error after, access.runOn world = (.error error, after) → errors error

namespace Access.FailsAs

variable {α β : Type} {errors wider : AccessError → Prop}

/-- Giving a value does not fail. -/
theorem pure (value : α) : FailsAs errors (pure value : Access α) := by
  intro world error after failed
  cases failed

/-- Failing at once fails with that error. -/
theorem throw {error : AccessError} (among : errors error) :
    FailsAs errors (throw error : Access α) := by
  intro world other after failed
  cases failed
  exact among

/-- A sequence fails as one of its parts does. -/
theorem bind {first : Access α} {next : α → Access β} (fails : FailsAs errors first)
    (further : ∀ value, FailsAs errors (next value)) : FailsAs errors (first >>= next) := by
  intro world error after failed
  rcases runOn_bind_eq_error_iff.1 failed with failed | ⟨value, middle, -, failed⟩
  · exact fails world error after failed
  · exact further value middle error after failed

/-- A record does not fail. -/
theorem record (entry : LogRecord) : FailsAs errors (Access.record entry) := by
  intro world error after failed
  cases failed

/-- A computation on the world does not fail. -/
theorem ofWorld (run : World → α × World) : FailsAs errors (Access.ofWorld run) := by
  intro world error after failed
  cases failed

/-- An invocation fails with a refusal. -/
theorem invoke {walked : List Segment} {ref : BeanRef}
    {run : World → Except InvocationError α × World}
    (among : ∀ cause, errors (.invocationFailed (Segment.render walked) ref.type cause)) :
    FailsAs errors (Access.invoke walked ref run) := by
  intro world error after failed
  rw [runOn_invoke] at failed
  cases result : (run world).1 with
  | ok value => simp [result] at failed
  | error cause =>
    obtain ⟨rfl, -⟩ : _ = error ∧ _ := by simpa [result] using failed
    exact among cause

/-- The errors may be told more widely. -/
theorem mono {access : Access α} (fails : FailsAs errors access)
    (widens : ∀ error, errors error → wider error) : FailsAs wider access :=
  fun world error after failed => widens error (fails world error after failed)

end Access.FailsAs

/-- The error tells of a row of segments and of a bean type. -/
structure AccessError.Tells (walked : List Segment) (owner : TypeRef) (error : AccessError) :
    Prop where
  property : error.property? = some (Segment.render walked)
  owner : error.owner? = some owner

/-- The error tells of a row of segments and of a bean type, and of nothing that could not be
written. -/
def AccessError.Bars (walked : List Segment) (owner : TypeRef) (error : AccessError) : Prop :=
  error.Tells walked owner ∧ error.isUnknownProperty = false

/-- The error tells of a property at the end of a row of segments. If it is one of a property that
cannot be written, the property cannot. -/
structure AccessError.Withholds (walked : List Segment) (owner : TypeRef) (info : PropertyInfo)
    (error : AccessError) : Prop where
  tells : error.Tells walked owner
  sealed : error.isUnknownProperty = true → info.isWritable = false

namespace Accessor

open Access (FailsAs)

section

variable (accessor : Accessor) (request : WriteRequest) (walked : List Segment) (owner : TypeRef)

/-! ## Making values -/

/-- A bean that is not made bars the way. -/
theorem construct_failsAs (type : TypeRef) :
    FailsAs (AccessError.Bars walked owner) (accessor.construct walked owner type) := by
  unfold construct
  split
  · exact .bind (.ofWorld _) fun _ => .pure _
  · exact .throw ⟨⟨rfl, rfl⟩, rfl⟩

/-- An absent value that is not made bars the way. -/
theorem grow_failsAs (declared : DeclaredType) :
    FailsAs (AccessError.Bars walked owner) (accessor.grow walked owner declared) := by
  have recorded (value : Value) (type : DeclaredType) : FailsAs (AccessError.Bars walked owner)
      (do
        Access.record (.grown (Segment.render walked) type)
        return if declared.isOptional then value.optSome else value : Access Value) :=
    .bind (.record _) fun _ => .pure _
  unfold grow
  dsimp only
  split
  · exact .bind (accessor.construct_failsAs walked owner _) fun _ => recorded _ _
  · exact .bind (.pure _) fun _ => recorded _ _
  · exact .bind (.pure _) fun _ => recorded _ _
  · exact .bind (.throw ⟨⟨rfl, rfl⟩, rfl⟩) fun _ => recorded _ _

/-- An absent value that may not be made bars the way. -/
theorem growIfAllowed_failsAs (declared : DeclaredType) :
    FailsAs (AccessError.Bars walked owner)
      (accessor.growIfAllowed request walked owner declared) := by
  unfold growIfAllowed
  split
  · exact accessor.grow_failsAs walked owner declared
  · exact .throw ⟨⟨rfl, rfl⟩, rfl⟩

/-- A slot that is not entered bars the way. -/
theorem enterSlot_failsAs (element : DeclaredType) (slot : Value) :
    FailsAs (AccessError.Bars walked owner)
      (accessor.enterSlot request walked owner element slot) := by
  unfold enterSlot
  split
  · exact accessor.growIfAllowed_failsAs request walked owner element
  · exact .pure _

/-- A skipped element that is not made bars the way. -/
theorem fillers_failsAs (element : DeclaredType) (count : Nat) :
    FailsAs (AccessError.Bars walked owner) (accessor.fillers walked owner element count) := by
  have filled : FailsAs (AccessError.Bars walked owner) (accessor.filler walked owner element) := by
    unfold filler
    split
    all_goals first | exact .pure _ | exact accessor.grow_failsAs walked owner element
  induction count with
  | zero => exact .pure _
  | succ count ih => exact .bind filled fun _ => .bind ih fun _ => .pure _

/-- A list that is not extended bars the way. -/
theorem extendTo_failsAs (before : List Segment) (segment : Segment) (element : DeclaredType)
    (index : Nat) (items : List Value) :
    FailsAs (AccessError.Bars (before ++ [segment]) owner)
      (accessor.extendTo request before segment owner element index items) := by
  unfold extendTo
  dsimp only
  split
  · exact .pure _
  · split
    · exact .throw ⟨⟨rfl, rfl⟩, rfl⟩
    · split
      · exact .throw ⟨⟨rfl, rfl⟩, rfl⟩
      · exact .bind (.record _) fun _ =>
          .bind (accessor.fillers_failsAs _ owner element _) fun _ => .pure _

/-- A key that is no index bars the way. -/
theorem listIndex_failsAs (key : String) :
    FailsAs (AccessError.Bars walked owner) (listIndex walked owner key) := by
  unfold listIndex
  split
  · exact .pure _
  · exact .throw ⟨⟨rfl, rfl⟩, rfl⟩

end

/-! ## One segment -/

/-- The bean type that is told of where a segment is refused: that of the bean that is there, or
else that of the slot. -/
def Stage.blamed (stage : Stage) : TypeRef :=
  match stage.value.core with
  | .bean ref => ref.type
  | _ => stage.owner

/-- At a bean its own type is told of. -/
theorem Stage.blamed_of_bean {stage : Stage} {ref : BeanRef} (core : stage.value.core = .bean ref) :
    stage.blamed = ref.type := by
  rw [blamed, core]

/-- Where there is no bean the owner of the slot is told of. -/
theorem Stage.blamed_of_not_bean {stage : Stage} (noBean : ∀ ref, stage.value.core ≠ .bean ref) :
    stage.blamed = stage.owner := by
  unfold blamed
  split
  · next ref core => exact absurd core (noBean ref)
  · rfl

/-- The error is one of a segment that is refused: if it tells of a bean type at all, it tells of
the row up to the segment; and if it is one of a name that cannot be written, the segment is a name
that is looked up on a bean and is no property there that can be written. -/
structure Refused (accessor : Accessor) (before : List Segment) (segment : Segment) (stage : Stage)
    (error : AccessError) : Prop where
  tells : error.owner? ≠ none → error.Tells (before ++ [segment]) stage.blamed
  unwritable : error.isUnknownProperty = true → ∃ label ref, segment = .name label ∧
    stage.value.core = .bean ref ∧
    ∀ info, accessor.capability? ref.type label = some (.property info) → info.isWritable = false

/-- How a segment that is not the last is passed, by what is there: a property is entered, a type
handle is made, or a slot of a collection is taken. -/
inductive Advances (accessor : Accessor) (request : WriteRequest) (before : List Segment)
    (stage : Stage) (world : World) : Segment → Stage → World → Prop
  | property (label : String) (ref : BeanRef) (info : PropertyInfo) (child : Value)
      (after : World) :
    stage.value.core = .bean ref → accessor.capability? ref.type label = some (.property info) →
    info.isReadable = true →
    (accessor.enter request (before ++ [.name label]) ref info).runOn world = (.ok child, after) →
    Advances accessor request before stage world (.name label)
      ⟨child, info.type, ref.type, finishProperty (before ++ [.name label]) ref info⟩ after
  | handle (label : String) (ref : BeanRef) :
    stage.value.core = .bean ref → accessor.capability? ref.type label = some .handle →
    Advances accessor request before stage world (.name label)
      ⟨.bean (world.add (TypeHandle.bean ref.type)).1, .bean TypeHandle.type, ref.type,
        fun written => pure ⟨written.value, none⟩⟩
      (world.add (TypeHandle.bean ref.type)).2
  | slot (key : String) (quoted : Bool) (slot : Value) (rebuild : Written → Value)
      (after : World) :
    (∀ ref, stage.value.core ≠ .bean ref) →
    Advances accessor request before stage world (.key key quoted)
      ⟨slot, stage.declared.element, stage.owner,
        fun written => pure ⟨written.value, some (rebuild written)⟩⟩ after

section

variable {accessor : Accessor} {request : WriteRequest} {before : List Segment} {segment : Segment}
  {stage : Stage} {error : AccessError}

/-- An error that bars the way is one of a segment that is refused. -/
theorem Refused.of_bars {owner : TypeRef} (blamed : stage.blamed = owner)
    (bars : error.Bars (before ++ [segment]) owner) :
    accessor.Refused before segment stage error where
  tells _ := blamed ▸ bars.1
  unwritable unknown := by
    rw [bars.2] at unknown
    cases unknown

/-- A property that is not put back is refused. -/
theorem Refused.of_withholds {label : String} {ref : BeanRef} {info : PropertyInfo}
    (core : stage.value.core = .bean ref)
    (names : accessor.capability? ref.type label = some (.property info))
    (withholds : error.Withholds (before ++ [.name label]) ref.type info) :
    accessor.Refused before (.name label) stage error where
  tells _ := by
    rw [Stage.blamed_of_bean core]
    exact withholds.tells
  unwritable unknown := by
    refine ⟨label, ref, rfl, core, fun other found => ?_⟩
    obtain rfl : info = other := by simpa using names.symm.trans found
    exact withholds.sealed unknown

/-- A property that does not take a value back withholds it. -/
theorem putBack_failsAs (walked : List Segment) (ref : BeanRef) (info : PropertyInfo)
    (value : Value) :
    FailsAs (AccessError.Withholds walked ref.type info)
      (putBack walked ref info value) := by
  unfold putBack
  split
  · exact .invoke fun cause => ⟨⟨rfl, rfl⟩, fun unknown => by cases unknown⟩
  · next sealed => exact .throw ⟨⟨rfl, rfl⟩, fun _ => by simpa using sealed⟩

/-- A property that does not take its copy back withholds it. -/
theorem finishProperty_failsAs (walked : List Segment) (ref : BeanRef) (info : PropertyInfo)
    (written : Written) :
    FailsAs (AccessError.Withholds walked ref.type info)
      (finishProperty walked ref info written) := by
  unfold finishProperty
  split
  · next copy _ => exact .bind (putBack_failsAs walked ref info copy) fun _ => .pure _
  · exact .pure _

/-- A property that is not entered withholds what is behind it. -/
theorem enter_failsAs (walked : List Segment) (ref : BeanRef) (info : PropertyInfo) :
    FailsAs (AccessError.Withholds walked ref.type info)
      (accessor.enter request walked ref info) := by
  unfold enter
  refine .bind (.invoke fun cause => ⟨⟨rfl, rfl⟩, fun unknown => by cases unknown⟩) fun child => ?_
  split
  · refine .bind ((accessor.growIfAllowed_failsAs request walked ref.type info.type).mono
      fun error bars => ⟨bars.1, fun unknown => ?_⟩) fun grown => ?_
    · rw [bars.2] at unknown
      cases unknown
    · exact .bind (putBack_failsAs walked ref info grown) fun _ => .pure _
  · exact .pure _

/-- A segment is refused that a value cannot have. -/
theorem Refused.of_unsupported {owner : TypeRef} (blamed : stage.blamed = owner) (value : Value) :
    accessor.Refused before segment stage
      (unsupported (before ++ [segment]) owner value segment) :=
  .of_bars blamed ⟨⟨rfl, rfl⟩, rfl⟩

/-- A segment that is not passed is refused. -/
theorem advance_failsAs (stage : Stage) :
    FailsAs (accessor.Refused before segment stage)
      (accessor.advance request before segment stage) := by
  unfold advance
  dsimp only
  rcases stage.value.core.not_bean_or_bean with noBean | ⟨ref, core⟩
  · have blamed : stage.blamed = stage.owner := Stage.blamed_of_not_bean noBean
    split
    · next ref label core => exact absurd core (noBean ref)
    · next ref core _ => exact absurd core (noBean ref)
    · next items key quoted _ =>
      refine .bind ((listIndex_failsAs _ stage.owner key).mono fun _ => .of_bars blamed)
        fun index => .bind ?_ fun extended => .bind ?_ fun slot => .pure _
      · exact (accessor.extendTo_failsAs request stage.owner before _ _ index items).mono
          fun _ => .of_bars blamed
      · exact (accessor.enterSlot_failsAs request _ stage.owner _ _).mono fun _ => .of_bars blamed
    · next entries key quoted _ =>
      exact .bind ((accessor.enterSlot_failsAs request _ stage.owner _ _).mono
        fun _ => .of_bars blamed) fun slot => .pure _
    · exact .throw (.of_unsupported blamed _)
  · have blamed : stage.blamed = ref.type := Stage.blamed_of_bean core
    rw [core]
    cases segment with
    | key key quoted => exact .throw (.of_unsupported blamed _)
    | name label =>
      dsimp only
      split
      · next info names =>
        split
        · exact .bind ((enter_failsAs _ ref info).mono
            fun _ => .of_withholds core names) fun child => .pure _
        · exact .throw (.of_bars blamed ⟨⟨rfl, rfl⟩, rfl⟩)
      · exact .bind (.bind (.ofWorld _) fun _ => .pure _) fun handle => .pure _
      · exact .throw (.of_bars blamed ⟨⟨rfl, rfl⟩, rfl⟩)

/-- A value that is not converted is refused without telling of a bean type. -/
theorem convertRaw_failsAs (walked : List Segment) (raw : Value) (target : DeclaredType) :
    FailsAs (fun error => error.owner? = none ∧ error.isUnknownProperty = false)
      (accessor.convertRaw walked raw target) := by
  intro world error after failed
  rw [convertRaw, Access.runOn_mk_pure] at failed
  cases converted : convertTo accessor.converter raw target with
  | ok value => simp [converted] at failed
  | error cause =>
    obtain ⟨rfl, -⟩ : _ = error ∧ _ := by simpa [converted] using failed
    exact ⟨rfl, rfl⟩

/-- A raw value that is not converted is refused at its segment. -/
theorem convertRaw_refused (walked : List Segment) (raw : Value) (target : DeclaredType) :
    FailsAs (accessor.Refused before segment stage) (accessor.convertRaw walked raw target) :=
  (convertRaw_failsAs walked raw target).mono fun error tells =>
    ⟨fun told => absurd tells.1 told, fun unknown => by
      rw [tells.2] at unknown
      cases unknown⟩

/-- A last segment that is not written is refused. -/
theorem writeStep_failsAs (stage : Stage) :
    FailsAs (accessor.Refused before segment stage)
      (accessor.writeStep request before segment none stage.value stage.declared stage.owner) := by
  unfold writeStep
  dsimp only
  rcases stage.value.core.not_bean_or_bean with noBean | ⟨ref, core⟩
  · have blamed : stage.blamed = stage.owner := Stage.blamed_of_not_bean noBean
    split
    · next ref label core => exact absurd core (noBean ref)
    · next ref core _ => exact absurd core (noBean ref)
    · next items key quoted _ =>
      refine .bind (.bind ((listIndex_failsAs _ stage.owner key).mono fun _ => .of_bars blamed)
        fun index => .bind ?_ fun extended => .bind ?_ fun slot => .pure _) fun written => .pure _
      · exact (accessor.extendTo_failsAs request stage.owner before _ _ index items).mono
          fun _ => .of_bars blamed
      · exact .bind (convertRaw_refused _ _ _) fun value => .pure _
    · exact .bind (.bind (.bind (convertRaw_refused _ _ _) fun value => .pure _)
        fun slot => .pure _) fun written => .pure _
    · exact .throw (.of_unsupported blamed _)
  · have blamed : stage.blamed = ref.type := Stage.blamed_of_bean core
    rw [core]
    cases segment with
    | key key quoted => exact .throw (.of_unsupported blamed _)
    | name label =>
      have sealed (hidden : ∀ info, accessor.capability? ref.type label = some (.property info) →
          info.isWritable = false) : accessor.Refused before (.name label) stage
            (accessor.notWritable (before ++ [.name label]) ref.type label) :=
        ⟨fun _ => blamed ▸ ⟨rfl, rfl⟩, fun _ => ⟨label, ref, rfl, core, hidden⟩⟩
      simp only [writeLast]
      split
      · next info names =>
        split
        · refine .bind (convertRaw_refused _ _ _) fun value => .bind ?_ fun _ => .pure _
          exact .invoke fun cause => .of_bars blamed ⟨⟨rfl, rfl⟩, rfl⟩
        · next unwritable =>
          refine .throw (sealed fun other found => ?_)
          obtain rfl : info = other := by simpa using names.symm.trans found
          simpa using unwritable
      · next noProperty =>
        exact .throw (sealed fun info found => absurd found (noProperty info))

/-- Whatever segment is passed, it is passed in one of these ways. -/
theorem advances_of_advance {next : Stage} {middle after : World}
    (advanced : (accessor.advance request before segment stage).runOn middle = (.ok next, after)) :
    accessor.Advances request before stage middle segment next after := by
  unfold advance at advanced
  dsimp only at advanced
  split at advanced
  · next ref label core =>
    split at advanced
    · next info names =>
      split at advanced
      · next readable =>
        obtain ⟨child, reached, enters, rest⟩ := Access.runOn_bind_eq_ok_iff.1 advanced
        obtain ⟨rfl, rfl⟩ : _ = next ∧ reached = after := by simpa using rest
        exact .property label ref info child reached core names readable enters
      · cases advanced
    · next names =>
      rw [Access.runOn_bind_of_ok (runOn_handleCursor _ _)] at advanced
      cases advanced
      exact .handle label ref core names
    · cases advanced
  · cases advanced
  · next items key quoted core =>
    obtain ⟨index, _, -, rest⟩ := Access.runOn_bind_eq_ok_iff.1 advanced
    obtain ⟨extended, _, -, rest⟩ := Access.runOn_bind_eq_ok_iff.1 rest
    obtain ⟨slot, reached, -, rest⟩ := Access.runOn_bind_eq_ok_iff.1 rest
    obtain ⟨rfl, rfl⟩ : _ = next ∧ reached = after := by simpa using rest
    exact .slot key quoted slot _ reached (by simp [core])
  · next entries key quoted core =>
    obtain ⟨slot, reached, -, rest⟩ := Access.runOn_bind_eq_ok_iff.1 advanced
    obtain ⟨rfl, rfl⟩ : _ = next ∧ reached = after := by simpa using rest
    exact .slot key quoted slot _ reached (by simp [core])
  · cases advanced

/-- Where a changed copy is not put back, the segment is refused. -/
theorem Advances.finish_failsAs {next : Stage} {middle after : World}
    (advances : accessor.Advances request before stage middle segment next after)
    (written : Written) :
    FailsAs (accessor.Refused before segment stage) (next.finish written) := by
  cases advances with
  | property label ref info child _ core names =>
    exact (finishProperty_failsAs _ ref info written).mono fun _ => .of_withholds core names
  | handle => exact .pure _
  | slot => exact .pure _

end

/-! ## Rows of segments -/

section

variable {accessor : Accessor} {request : WriteRequest} {world start middle after other : World}
  {root : BeanRef} {before later segments : List Segment} {segment : Segment} {stage next : Stage}
  {error : AccessError}

namespace DescendsTo

/-- The last segment of a row is passed from where the others come to. -/
theorem of_concat
    (descends : accessor.DescendsTo request world root (before ++ [segment]) next after) :
    ∃ stage middle, accessor.DescendsTo request world root before stage middle ∧
      (accessor.advance request before segment stage).runOn middle = (.ok next, after) := by
  generalize whole : before ++ [segment] = segments at descends
  cases descends with
  | root => simp at whole
  | step before' segment' stage _ middle _ descends advanced =>
    obtain ⟨rfl, same⟩ := List.append_inj' whole rfl
    obtain rfl : segment = segment' := by simpa using same
    exact ⟨stage, middle, descends, advanced⟩

/-- A row of segments comes to one stage and one world. -/
theorem unique (descends : accessor.DescendsTo request world root segments stage after)
    (descends' : accessor.DescendsTo request world root segments next other) :
    stage = next ∧ after = other := by
  induction descends generalizing next other with
  | root =>
    generalize none : ([] : List Segment) = segments at descends'
    cases descends' with
    | root => exact ⟨rfl, rfl⟩
    | step => simp at none
  | step before segment stage last middle after _ advanced ih =>
    obtain ⟨stage', middle', descends', advanced'⟩ := descends'.of_concat
    obtain ⟨rfl, rfl⟩ := ih descends'
    simpa using advanced.symm.trans advanced'

/-- A longer row has passed every segment on its way. -/
theorem of_append (descends : accessor.DescendsTo request world root segments next after)
    (split : segments = before ++ segment :: later) :
    ∃ stage middle between reached, accessor.DescendsTo request world root before stage middle ∧
      (accessor.advance request before segment stage).runOn middle = (.ok between, reached) := by
  induction descends generalizing later with
  | root => simp at split
  | step before' last stage next middle after descends advanced ih =>
    rcases later.eq_nil_or_concat with rfl | ⟨rest, last', rfl⟩
    · obtain ⟨rfl, same⟩ := List.append_inj' split rfl
      obtain rfl : last = segment := by simpa using same
      exact ⟨stage, middle, next, after, descends, advanced⟩
    · rw [List.concat_eq_append, ← List.cons_append, ← List.append_assoc] at split
      exact ih (List.append_inj' split rfl).1

end DescendsTo

/-- A write has come to one bean at most behind a row of segments. -/
theorem WrittenAt.unique {ref ref' : BeanRef}
    (written : accessor.WrittenAt request world root segments ref)
    (written' : accessor.WrittenAt request world root segments ref') : ref = ref' := by
  obtain ⟨stage, middle, descends, core⟩ := written
  obtain ⟨stage', middle', descends', core'⟩ := written'
  obtain ⟨rfl, rfl⟩ := descends.unique descends'
  simpa using core.symm.trans core'

/-- How a write fails at a segment, where it has come to a stage: the segment is not passed, it is
the last one and is not written, or what is behind it has been written and is not put back. -/
inductive FailsAt (accessor : Accessor) (request : WriteRequest) (world : World) (root : BeanRef)
    (before : List Segment) (segment : Segment) : List Segment → Stage → AccessError → Prop
  | passing (later : List Segment) (stage : Stage) (error : AccessError) (middle after : World) :
    accessor.DescendsTo request world root before stage middle → later ≠ [] →
    (accessor.advance request before segment stage).runOn middle = (.error error, after) →
    FailsAt accessor request world root before segment later stage error
  | ending (stage : Stage) (error : AccessError) (middle after : World) :
    accessor.DescendsTo request world root before stage middle →
    (accessor.writeStep request before segment none stage.value stage.declared
      stage.owner).runOn middle = (.error error, after) →
    FailsAt accessor request world root before segment [] stage error
  | returning (first : Segment) (rest : List Segment) (stage next : Stage) (written : Written)
      (error : AccessError) (middle reached behind after : World) :
    accessor.DescendsTo request world root before stage middle →
    (accessor.advance request before segment stage).runOn middle = (.ok next, reached) →
    (accessor.writeInto request (before ++ [segment]) first rest next.value next.declared
      next.owner).runOn reached = (.ok written, behind) →
    (next.finish written).runOn behind = (.error error, after) →
    FailsAt accessor request world root before segment (first :: rest) stage error

namespace FailsAt

/-- A failure at a segment comes behind a walk down to it. -/
theorem descends
    (fails : accessor.FailsAt request world root before segment later stage error) :
    ∃ middle, accessor.DescendsTo request world root before stage middle := by
  cases fails with
  | passing _ _ _ middle _ descends => exact ⟨middle, descends⟩
  | ending _ _ middle _ descends => exact ⟨middle, descends⟩
  | returning _ _ _ _ _ _ middle _ _ _ descends => exact ⟨middle, descends⟩

/-- Where a write fails, the segment is refused. -/
theorem refused (fails : accessor.FailsAt request world root before segment later stage error) :
    accessor.Refused before segment stage error := by
  cases fails with
  | passing _ _ _ middle after _ _ failed => exact advance_failsAs stage middle error after failed
  | ending _ _ middle after _ failed => exact writeStep_failsAs stage middle error after failed
  | returning _ _ _ next written _ _ _ behind after _ advanced _ failed =>
    exact (advances_of_advance advanced).finish_failsAs written behind error after failed

end FailsAt

/-- A row of segments that is not written fails at one of them. By induction on the segments that
are left, from wherever the write has come to. -/
theorem failsAt_of_writeInto (later : List Segment) :
    ∀ (before : List Segment) (segment : Segment) (stage : Stage) (middle : World),
      accessor.DescendsTo request world root before stage middle →
      (accessor.writeInto request before segment later stage.value stage.declared
        stage.owner).runOn middle = (.error error, after) →
      ∃ front last rest stage, before ++ segment :: later = front ++ last :: rest ∧
        accessor.FailsAt request world root front last rest stage error := by
  induction later with
  | nil =>
    intro before segment stage middle descends failed
    exact ⟨before, segment, [], stage, rfl, .ending stage error middle after descends failed⟩
  | cons first rest ih =>
    intro before segment stage middle descends failed
    rw [writeInto, writeStep_eq_advance] at failed
    rcases Access.runOn_bind_eq_error_iff.1 failed with failed | ⟨next, reached, advanced, failed⟩
    · exact ⟨before, segment, first :: rest, stage, rfl,
        .passing _ stage error middle after descends (by simp) failed⟩
    rcases Access.runOn_bind_eq_error_iff.1 failed with failed | ⟨written, behind, wrote, failed⟩
    · have further := DescendsTo.step before segment stage next middle reached descends advanced
      obtain ⟨front, last, rest', stage', split, fails⟩ := ih _ first next reached further failed
      exact ⟨front, last, rest', stage', (List.append_cons ..).trans split, fails⟩
    · exact ⟨before, segment, first :: rest, stage, rfl,
        .returning first rest stage next written error middle reached behind after descends
          advanced wrote failed⟩

/-! ## Paths -/

/-- The old value may be missing, but asking for it does not fail. -/
theorem exists_runOn_oldValue (accessor : Accessor) (options : AccessOptions) (root : BeanRef)
    (path : PropertyPath) (world : World) :
    ∃ oldValue? start,
      (accessor.oldValue options root path).runOn world = (.ok oldValue?, start) := by
  unfold oldValue
  split
  · rw [readOld, Access.runOn_tryCatch, Access.runOn_map]
    cases ((accessor.get root path).runOn world).1 with
    | ok value => exact ⟨_, _, rfl⟩
    | error error => exact ⟨_, _, rfl⟩
  · exact ⟨none, world, rfl⟩

/-- A write that fails has asked for the old value, and then it fails at a segment of its path. -/
theorem exists_failsAt_of_setWith {options : AccessOptions} {path : PropertyPath} {raw : Value}
    (failed : (accessor.setWith options root path raw).runOn world = (.error error, after)) :
    ∃ oldValue? start front last rest stage,
      (accessor.oldValue options root path).runOn world = (.ok oldValue?, start) ∧
      path.segments = front ++ last :: rest ∧
      accessor.FailsAt ⟨raw, options⟩ start root front last rest stage error := by
  obtain ⟨oldValue?, start, read⟩ := exists_runOn_oldValue accessor options root path world
  rw [setWith_eq_bind, Access.runOn_bind_of_ok read] at failed
  rcases Access.runOn_bind_eq_error_iff.1 failed with failed | ⟨_, _, _, failed⟩
  · rw [writePath] at failed
    rcases Access.runOn_bind_eq_error_iff.1 failed with failed | ⟨_, _, _, failed⟩
    · obtain ⟨front, last, rest, stage, split, fails⟩ :=
        failsAt_of_writeInto path.later [] path.first (.root root) start .root failed
      exact ⟨oldValue?, start, front, last, rest, stage, read, split, fails⟩
    · cases failed
  · cases failed

end

end Accessor

end PropertyGraph
