import Mathlib.Data.List.Basic
import PropertyGraph.Proofs.Access.Fields
import PropertyGraph.Proofs.Read.Trail

/-!
# Readable properties

A property counts as readable if its path is described, and described as readable. A description
reads every segment but the last, so it cannot know what the last step will meet. A path is readable
exactly if reading it succeeds, or fails at the whole path for one of two reasons: the getter at the
end refuses, or the index at the end is out of the bounds of its list.
-/
namespace PropertyGraph

/-- What is known of the slot under a cursor, as the description of a property. -/
def Cursor.describedAs (cursor : Cursor) (property : String) : PropertyDescriptor :=
  ⟨property, cursor.owner, cursor.declared, cursor.isReadable, cursor.isWritable⟩

/-- A read misses a property that is there: its getter refuses, or its list has no element at the
index that the last segment is. -/
inductive AccessError.Misses (property : String) (last : Segment) : AccessError → Prop
  | refused (owner : TypeRef) (cause : InvocationError) :
    Misses property last (.invocationFailed property owner cause)
  | outOfBounds (key : String) (quoted : Bool) (index length : Nat) (owner : TypeRef) :
    last = .key key quoted → Accessor.listIndex? key = some index → length ≤ index →
    Misses property last (.invalidProperty property owner (.outOfBounds index length))

/-- What a read misses is the property at the end of its path. -/
theorem AccessError.Misses.property?_eq {property : String} {last : Segment} {error : AccessError}
    (misses : error.Misses property last) : error.property? = some property := by
  cases misses <;> rfl

namespace Accessor

/-- Reads the value at the path of a text. -/
def getText (accessor : Accessor) (root : BeanRef) (text : String) : Access Value := do
  let path ← parsePath text
  accessor.get root path

/-- The last step of a path is described as readable, and it is taken as described or missed. -/
def StepDescribed (accessor : Accessor) (cursor : Cursor) (before : List Segment)
    (segment : Segment) (world : World) : Prop :=
  ∃ descriptor seen,
    (accessor.describeStep cursor before segment).runOn world = (.ok descriptor, seen) ∧
    descriptor.isReadable = true ∧
    ((∃ next after, (accessor.step cursor before segment).runOn world = (.ok next, after) ∧
        descriptor = next.describedAs (Segment.render (before ++ [segment]))) ∨
      ∃ error after, (accessor.step cursor before segment).runOn world = (.error error, after) ∧
        error.Misses (Segment.render (before ++ [segment])) segment)

/-- The last step of a path is refused, not missed, and it is not described as readable. -/
def StepRefused (accessor : Accessor) (cursor : Cursor) (before : List Segment)
    (segment : Segment) (world : World) : Prop :=
  (∃ error after, (accessor.step cursor before segment).runOn world = (.error error, after) ∧
    ¬ error.Misses (Segment.render (before ++ [segment])) segment) ∧
  ∀ descriptor seen,
    (accessor.describeStep cursor before segment).runOn world = (.ok descriptor, seen) →
    descriptor.isReadable = false

section

variable {accessor : Accessor} {world middle after : World} {root : BeanRef}
  {before : List Segment} {segment : Segment} {cursor next : Cursor} {error : AccessError}
  {path : PropertyPath}

/-! ## The last step -/

/-- A property that can be read is described so; the getter gives a value or refuses. -/
theorem stepDescribed_property {ref : BeanRef} {label : String} {info : PropertyInfo}
    (isBean : cursor.value.unwrapped = .bean ref)
    (names : accessor.capability? ref.type label = some (.property info))
    (readable : info.isReadable = true) :
    accessor.StepDescribed cursor before (.name label) world := by
  have described : (accessor.describeStep cursor before (.name label)).runOn world =
      (.ok ⟨Segment.render (before ++ [.name label]), ref.type, info.type, info.isReadable,
        info.isWritable⟩, world) := by
    simp [describeStep, isBean, names]
  have steps : accessor.step cursor before (.name label) =
      (Access.invoke (before ++ [.name label]) ref (·.read ref info) >>= fun value =>
        pure ⟨value, info.type, ref.type, true, info.isWritable⟩) := by
    simp only [step, isBean, readName, names, readable, ↓reduceIte]
  unfold StepDescribed
  rw [described, steps, readable]
  refine ⟨_, _, rfl, rfl, ?_⟩
  cases read : (world.read ref info).1 with
  | ok value =>
    left
    refine ⟨⟨value, info.type, ref.type, true, info.isWritable⟩, (world.read ref info).2, ?_, rfl⟩
    rw [Access.runOn_bind, Access.runOn_invoke, read]
    rfl
  | error cause =>
    right
    refine ⟨_, (world.read ref info).2, ?_, .refused ref.type cause⟩
    rw [Access.runOn_bind, Access.runOn_invoke, read]
    rfl

/-- The handle of a type is described as it is read. -/
theorem stepDescribed_handle {ref : BeanRef} {label : String}
    (isBean : cursor.value.unwrapped = .bean ref)
    (names : accessor.capability? ref.type label = some .handle) :
    accessor.StepDescribed cursor before (.name label) world := by
  have handle := runOn_handleCursor ref.type world
  have described : (accessor.describeStep cursor before (.name label)).runOn world =
      (.ok ⟨Segment.render (before ++ [.name label]), ref.type, .bean TypeHandle.type, true, false⟩,
        (world.add (TypeHandle.bean ref.type)).2) := by
    simp only [describeStep, isBean, names]
    rw [Access.runOn_bind_of_ok handle, Access.runOn_pure]
  have steps : accessor.step cursor before (.name label) = handleCursor ref.type := by
    simp only [step, isBean, readName, names]
  unfold StepDescribed
  rw [described, steps, handle]
  exact ⟨_, _, rfl, rfl, .inl ⟨_, _, rfl, rfl⟩⟩

/-- A list is described at every index; it may have no element there. -/
theorem stepDescribed_list {items : List Value} {key : String} {quoted : Bool} {index : Nat}
    (isList : cursor.value.unwrapped = .list items) (isIndex : listIndex? key = some index)
    (readable : cursor.isReadable = true) :
    accessor.StepDescribed cursor before (.key key quoted) world := by
  have described : (accessor.describeStep cursor before (.key key quoted)).runOn world =
      (.ok ⟨Segment.render (before ++ [.key key quoted]), cursor.owner, cursor.declared.element,
        cursor.isReadable, cursor.isWritable⟩, world) := by
    simp [describeStep, isList, listIndex, isIndex]
  refine ⟨_, world, described, readable, ?_⟩
  cases found : items[index]? with
  | some value =>
    left
    refine ⟨cursor.element value, world, ?_, rfl⟩
    simp [step, isList, listIndex, isIndex, found]
  | none =>
    right
    have beyond : items.length ≤ index := List.getElem?_eq_none_iff.1 found
    refine ⟨_, world, ?_, .outOfBounds key quoted index items.length cursor.owner rfl isIndex
      beyond⟩
    simp [step, isList, listIndex, isIndex, found]

/-- A map is described at every key; a missing entry is `null`. -/
theorem stepDescribed_map {entries : List (String × Value)} {key : String} {quoted : Bool}
    (isMap : cursor.value.unwrapped = .map entries) (readable : cursor.isReadable = true) :
    accessor.StepDescribed cursor before (.key key quoted) world := by
  have described : (accessor.describeStep cursor before (.key key quoted)).runOn world =
      (.ok ⟨Segment.render (before ++ [.key key quoted]), cursor.owner, cursor.declared.element,
        cursor.isReadable, cursor.isWritable⟩, world) := by
    simp [describeStep, isMap]
  have steps : accessor.step cursor before (.key key quoted) =
      pure (cursor.element ((Entries.find? key entries).getD .null)) := by
    simp only [step, isMap]
  unfold StepDescribed
  rw [described, steps, Access.runOn_pure]
  exact ⟨_, world, rfl, readable, .inl ⟨_, world, rfl, rfl⟩⟩

/-- A step that fails as its description does is refused, unless it misses. -/
theorem stepRefused_of_throw
    (steps : accessor.step cursor before segment = throw error)
    (describes : accessor.describeStep cursor before segment = throw error)
    (noMiss : ¬ error.Misses (Segment.render (before ++ [segment])) segment) :
    accessor.StepRefused cursor before segment world := by
  constructor
  · exact ⟨error, world, by rw [steps, Access.runOn_throw], noMiss⟩
  · intro descriptor seen done
    rw [describes, Access.runOn_throw] at done
    simp at done

/-- A segment that the value before it cannot have is refused. -/
theorem stepRefused_unsupported (value : Value)
    (steps : accessor.step cursor before segment =
      throw (unsupported (before ++ [segment]) cursor.owner value segment))
    (describes : accessor.describeStep cursor before segment =
      throw (unsupported (before ++ [segment]) cursor.owner value segment)) :
    accessor.StepRefused cursor before segment world := by
  apply stepRefused_of_throw steps describes
  unfold unsupported
  intro misses
  cases named : segment.isName <;> simp only [named] at misses <;> cases misses

/-- A key that is no index is refused by a list. -/
theorem stepRefused_notAnIndex {items : List Value} {key : String} {quoted : Bool}
    (isList : cursor.value.unwrapped = .list items) (noIndex : listIndex? key = none) :
    accessor.StepRefused cursor before (.key key quoted) world := by
  have noStep : (listIndex (before ++ [.key key quoted]) cursor.owner key) =
      throw (.invalidProperty (Segment.render (before ++ [.key key quoted])) cursor.owner
        (.notAnIndex key)) := by
    rw [listIndex, noIndex]
  apply stepRefused_of_throw
  · simp only [step, isList, noStep, Access.throw_bind]
    rfl
  · simp only [describeStep, isList, noStep, Access.throw_bind]
  · rintro ⟨⟩

/-- A name that is nothing on its bean, or a property without a getter, is refused. -/
theorem stepRefused_name {ref : BeanRef} {label : String}
    (isBean : cursor.value.unwrapped = .bean ref)
    (sealed : ∀ info, accessor.capability? ref.type label = some (.property info) →
      info.isReadable = false)
    (noHandle : accessor.capability? ref.type label ≠ some .handle) :
    accessor.StepRefused cursor before (.name label) world := by
  have refused : accessor.step cursor before (.name label) =
      throw (.notReadable (Segment.render (before ++ [.name label])) ref.type) := by
    cases names : accessor.capability? ref.type label with
    | none => simp [step, isBean, readName, names]
    | some found =>
      cases found with
      | handle => exact absurd names noHandle
      | property info => simp [step, isBean, readName, names, sealed info names]
  refine ⟨⟨_, world, by rw [refused, Access.runOn_throw], by rintro ⟨⟩⟩, ?_⟩
  intro descriptor seen described
  cases names : accessor.capability? ref.type label with
  | none => simp [describeStep, isBean, names] at described
  | some found =>
    cases found with
    | handle => exact absurd names noHandle
    | property info =>
      obtain ⟨rfl, -⟩ : _ = descriptor ∧ _ := by simpa [describeStep, isBean, names] using described
      exact sealed info names

/-- The last step of a path is described as readable or refused. -/
theorem stepDescribed_or_stepRefused (accessor : Accessor) (world : World)
    (readable : cursor.isReadable = true) (before : List Segment) (segment : Segment) :
    accessor.StepDescribed cursor before segment world ∨
      accessor.StepRefused cursor before segment world := by
  cases segment with
  | name label =>
    cases content : cursor.value.unwrapped with
    | bean ref =>
      cases names : accessor.capability? ref.type label with
      | none => exact .inr (stepRefused_name content (by simp [names]) (by simp [names]))
      | some found =>
        cases found with
        | handle => exact .inl (stepDescribed_handle content names)
        | property info =>
          cases can : info.isReadable with
          | true => exact .inl (stepDescribed_property content names can)
          | false => exact .inr (stepRefused_name content (by simp [names, can]) (by simp [names]))
    | _ =>
      right
      apply stepRefused_unsupported cursor.value.unwrapped
      · simp only [step, content]
      · simp only [describeStep, content]
  | key key quoted =>
    cases content : cursor.value.unwrapped with
    | list items =>
      cases isIndex : listIndex? key with
      | some index => exact .inl (stepDescribed_list content isIndex readable)
      | none => exact .inr (stepRefused_notAnIndex content isIndex)
    | map entries => exact .inl (stepDescribed_map content readable)
    | _ =>
      right
      apply stepRefused_unsupported cursor.value.unwrapped
      · simp only [step, content]
      · simp only [describeStep, content]

/-- A step that is taken is described as what it comes to, and that can be read. -/
theorem describeStep_of_step (readable : cursor.isReadable = true)
    (stepped : (accessor.step cursor before segment).runOn world = (.ok next, after)) :
    next.isReadable = true ∧
      ∃ seen, (accessor.describeStep cursor before segment).runOn world =
        (.ok (next.describedAs (Segment.render (before ++ [segment]))), seen) := by
  rcases stepDescribed_or_stepRefused accessor world readable before segment with
    ⟨descriptor, seen, described, can, ⟨next', after', stepped', rfl⟩ | ⟨_, _, refused, -⟩⟩ |
      ⟨⟨_, _, refused, -⟩, -⟩
  · obtain ⟨rfl, rfl⟩ : next' = next ∧ after' = after := by simpa [stepped] using stepped'.symm
    exact ⟨can, seen, described⟩
  · simp [stepped] at refused
  · simp [stepped] at refused

/-- Whatever a row of segments comes to can be read. -/
theorem ComesTo.isReadable {segments : List Segment}
    (comes : accessor.ComesTo world root segments cursor after) : cursor.isReadable = true := by
  induction comes with
  | root => rfl
  | step before segment cursor next middle after _ _ stepped ih =>
    exact (describeStep_of_step ih stepped).1

/-! ## The whole path -/

/-- A path is described as its last segment is, from where the others come to. -/
theorem describe_eq_ok_iff {descriptor : PropertyDescriptor} :
    (accessor.describe root path).runOn world = (.ok descriptor, after) ↔
      ∃ before last cursor middle, path.segments = before ++ [last] ∧
        accessor.ComesTo world root before cursor middle ∧ cursor.value.isAbsent = false ∧
        (accessor.describeStep cursor before last).runOn middle = (.ok descriptor, after) := by
  rw [describe, Access.runOn_bind_eq_ok_iff]
  constructor
  · rintro ⟨parent, middle, walked, described⟩
    obtain ⟨split, comes, present⟩ := parent_eq_ok_iff.1 walked
    exact ⟨parent.before, parent.last, parent.cursor, middle, split, comes, present, described⟩
  · rintro ⟨before, last, cursor, middle, split, comes, present, described⟩
    exact ⟨⟨cursor, before, last⟩, middle, parent_eq_ok_iff.2 ⟨split, comes, present⟩, described⟩

/-- A path that has been come to is described as what it has come to. -/
theorem ComesTo.describe (comes : accessor.ComesTo world root path.segments next after) :
    ∃ seen, (accessor.describe root path).runOn world =
      (.ok (next.describedAs path.text), seen) := by
  have nonempty : path.segments ≠ [] := List.cons_ne_nil _ _
  obtain ⟨before, last, split⟩ := (List.eq_nil_or_concat' _).resolve_left nonempty
  have whole : path.text = Segment.render (before ++ [last]) := by rw [PropertyPath.text, split]
  obtain ⟨cursor, middle, comes, present, stepped⟩ := (split ▸ comes).of_concat
  obtain ⟨-, seen, described⟩ := describeStep_of_step comes.isReadable stepped
  rw [whole]
  exact ⟨seen, describe_eq_ok_iff.2
    ⟨before, last, cursor, middle, split, comes, present, described⟩⟩

/-- A read that fails at the whole path has come to all segments but the last, which is refused. -/
theorem exists_comesTo_of_fails_at_path
    (failed : (accessor.get root path).runOn world = (.error error, after))
    (whole : error.property? = some path.text) :
    ∃ before last cursor middle, path.segments = before ++ [last] ∧
      accessor.ComesTo world root before cursor middle ∧ cursor.value.isAbsent = false ∧
      (accessor.step cursor before last).runOn middle = (.error error, after) := by
  obtain ⟨before, segment, later, split, stops⟩ := stopsAt_of_get failed
  have named := stops.property?_eq
  have none : later = [] := by
    rw [whole, PropertyPath.text, split, Option.some.injEq, List.append_cons] at named
    exact Segment.eq_nil_of_render_append (by simp) named
  subst none
  cases stops with
  | refused cursor middle _ _ comes present refused =>
    exact ⟨before, segment, cursor, middle, split, comes, present, refused⟩
  | absent cursor next middle _ _ _ _ _ more => exact absurd rfl more

/-- A path is described as readable exactly if reading it succeeds or misses at its end. -/
theorem describe_isReadable_iff :
    (∃ descriptor seen, (accessor.describe root path).runOn world = (.ok descriptor, seen) ∧
      descriptor.isReadable = true) ↔
    (∃ value after, (accessor.get root path).runOn world = (.ok value, after)) ∨
      ∃ before last error after, path.segments = before ++ [last] ∧
        (accessor.get root path).runOn world = (.error error, after) ∧
        error.Misses path.text last := by
  constructor
  · rintro ⟨descriptor, seen, described, readable⟩
    obtain ⟨before, last, cursor, middle, split, comes, present, described⟩ :=
      describe_eq_ok_iff.1 described
    have whole : path.text = Segment.render (before ++ [last]) := by rw [PropertyPath.text, split]
    rcases stepDescribed_or_stepRefused accessor middle comes.isReadable before last with
      ⟨_, _, -, -, ⟨next, after, stepped, -⟩ | ⟨error, after, refused, misses⟩⟩ | ⟨-, sealed⟩
    · left
      have ends := ComesTo.step before last cursor next middle after comes present stepped
      exact ⟨_, after, get_eq_ok_iff.2 ⟨next, split ▸ ends, rfl⟩⟩
    · right
      have stops : accessor.StopsAt world root before last [] error after :=
        .refused cursor middle error after comes present refused
      exact ⟨before, last, error, after, split, stops.get split, whole ▸ misses⟩
    · have unreadable := sealed descriptor seen described
      simp [readable] at unreadable
  · rintro (⟨value, after, read⟩ | ⟨before, last, error, after, split, failed, misses⟩)
    · obtain ⟨next, comes, -⟩ := get_eq_ok_iff.1 read
      obtain ⟨seen, described⟩ := comes.describe
      exact ⟨_, seen, described, comes.isReadable⟩
    · have whole : path.text = Segment.render (before ++ [last]) := by rw [PropertyPath.text, split]
      obtain ⟨before', last', cursor, middle, split', comes, present, refused⟩ :=
        exists_comesTo_of_fails_at_path failed misses.property?_eq
      obtain ⟨rfl, sameLast⟩ := List.append_inj' (split.symm.trans split') rfl
      obtain rfl : last = last' := by simpa using sameLast
      rcases stepDescribed_or_stepRefused accessor middle comes.isReadable before last with
        ⟨descriptor, seen, described, readable, -⟩ | ⟨⟨error', after', refused', noMiss⟩, -⟩
      · exact ⟨descriptor, seen, describe_eq_ok_iff.2
          ⟨before, last, cursor, middle, split, comes, present, described⟩, readable⟩
      · obtain ⟨rfl, -⟩ : error = error' ∧ _ := by simpa [refused] using refused'
        exact absurd (whole ▸ misses) noMiss

variable (accessor root world) in
/-- A text counts as readable exactly if reading its path succeeds, or fails at the whole path
because the last getter refuses or because the last key is an index out of the bounds of its
list. -/
theorem isReadable_iff (text : String) :
    ((accessor.isReadable root text).run world).1 = true ↔
      (∃ value after, (accessor.getText root text).runOn world = (.ok value, after)) ∨
      ∃ path before last error after, PropertyPath.parse text = .ok path ∧
        path.segments = before ++ [last] ∧
        (accessor.getText root text).runOn world = (.error error, after) ∧
        error.Misses path.text last := by
  rw [isReadable, describes_iff]
  cases parsed : PropertyPath.parse text with
  | error cause =>
    have failed : (accessor.getText root text).runOn world =
        (.error (.malformedPath cause), world) := by
      rw [getText, parsePath, parsed, Access.runOn_bind, Access.runOn_mk_pure]
      rfl
    simp [failed]
  | ok path =>
    have reads : accessor.getText root text = accessor.get root path := by
      rw [getText, parsePath_of_parse parsed, pure_bind]
    rw [reads]
    simpa using describe_isReadable_iff

end

end Accessor

end PropertyGraph
