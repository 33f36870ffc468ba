import PropertyGraph.Access.Read
import PropertyGraph.Proofs.Access.Run
import PropertyGraph.Proofs.Path.Front

/-!
# The trail of a read

Reading a path is a row of steps, each taken from where the one before it has come to. `ComesTo`
tells of such a row from a root; the getters on the way may change the world. A read that succeeds
has come to the end of its path. A read that fails has come to the segments before one, and stops
there: the step is refused, or it leads to an absent value with more of the path behind it.
-/
namespace PropertyGraph.Accessor

/-- A row of segments is read in turn from a root, each from a value that is present, and comes to a
cursor and a world. -/
inductive ComesTo (accessor : Accessor) (world : World) (root : BeanRef) :
    List Segment → Cursor → World → Prop
  | root : ComesTo accessor world root [] (.root root) world
  | step (before : List Segment) (segment : Segment) (cursor next : Cursor)
      (middle after : World) :
    ComesTo accessor world root before cursor middle → cursor.value.isAbsent = false →
    (accessor.step cursor before segment).runOn middle = (.ok next, after) →
    ComesTo accessor world root (before ++ [segment]) next after

/-- How a read stops at a segment behind a row of segments: the step is refused, or it leads to an
absent value although the path goes on. -/
inductive StopsAt (accessor : Accessor) (world : World) (root : BeanRef) (before : List Segment)
    (segment : Segment) (later : List Segment) : AccessError → World → Prop
  | refused (cursor : Cursor) (middle : World) (error : AccessError) (after : World) :
    accessor.ComesTo world root before cursor middle → cursor.value.isAbsent = false →
    (accessor.step cursor before segment).runOn middle = (.error error, after) →
    StopsAt accessor world root before segment later error after
  | absent (cursor next : Cursor) (middle after : World) :
    accessor.ComesTo world root before cursor middle → cursor.value.isAbsent = false →
    (accessor.step cursor before segment).runOn middle = (.ok next, after) →
    next.value.isAbsent = true → later ≠ [] →
    StopsAt accessor world root before segment later
      (.nullValue (Segment.render (before ++ [segment])) next.owner) after

section

variable {accessor : Accessor} {world middle after other : World} {root : BeanRef}
  {before later segments : List Segment} {segment last : Segment} {cursor next : Cursor}
  {error : AccessError} {path : PropertyPath}

namespace ComesTo

/-- The last segment of a row is read from what the others come to. -/
theorem of_concat (comes : accessor.ComesTo world root (before ++ [segment]) next after) :
    ∃ cursor middle, accessor.ComesTo world root before cursor middle ∧
      cursor.value.isAbsent = false ∧
      (accessor.step cursor before segment).runOn middle = (.ok next, after) := by
  generalize whole : before ++ [segment] = segments at comes
  cases comes with
  | root => simp at whole
  | step before' segment' cursor _ middle _ comes present stepped =>
    obtain ⟨rfl, same⟩ := List.append_inj' whole rfl
    obtain rfl : segment = segment' := by simpa using same
    exact ⟨cursor, middle, comes, present, stepped⟩

/-- A row of segments comes to one cursor and one world. -/
theorem unique (comes : accessor.ComesTo world root segments cursor after)
    (comes' : accessor.ComesTo world root segments next other) : cursor = next ∧ after = other := by
  induction comes generalizing next other with
  | root =>
    generalize none : ([] : List Segment) = segments at comes'
    cases comes' with
    | root => exact ⟨rfl, rfl⟩
    | step => simp at none
  | step before segment cursor last middle after _ _ stepped ih =>
    obtain ⟨cursor', middle', comes', -, stepped'⟩ := comes'.of_concat
    obtain ⟨rfl, rfl⟩ := ih comes'
    simpa using stepped.symm.trans stepped'

/-- A longer row has come to the end of every shorter one, at a value that is present. -/
theorem of_append (comes : accessor.ComesTo world root segments cursor after)
    (split : segments = before ++ later) :
    ∃ between middle, accessor.ComesTo world root before between middle ∧
      (later ≠ [] → between.value.isAbsent = false) := by
  induction comes generalizing later with
  | root =>
    obtain ⟨rfl, rfl⟩ := List.append_eq_nil_iff.1 split.symm
    exact ⟨.root root, world, .root, by simp⟩
  | step before' segment cursor next middle after comes present stepped ih =>
    rcases later.eq_nil_or_concat with rfl | ⟨rest, last, rfl⟩
    · rw [List.append_nil] at split
      exact ⟨next, after, split ▸ .step before' segment cursor next middle after comes present
        stepped, by simp⟩
    · rw [List.concat_eq_append, ← List.append_assoc] at split
      have shorter := (List.append_inj' split rfl).1
      obtain ⟨between, reached, comesBetween, presentBetween⟩ := ih shorter
      refine ⟨between, reached, comesBetween, fun _ => ?_⟩
      cases rest with
      | nil =>
        rw [List.append_nil] at shorter
        obtain ⟨rfl, -⟩ := comesBetween.unique (shorter ▸ comes)
        exact present
      | cons first rest => exact presentBetween (by simp)

/-- The walk over a path goes on from where its first segments have come to. -/
theorem navigate (comes : accessor.ComesTo world root before cursor middle)
    (present : cursor.value.isAbsent = false) {first : Segment} {rest : List Segment}
    (split : first :: rest = before ++ segment :: later) :
    (accessor.navigate (.root root) [] first rest).runOn world =
      (accessor.navigate cursor before segment later).runOn middle := by
  induction comes generalizing segment later with
  | root =>
    obtain ⟨rfl, rfl⟩ := List.cons.inj split
    rfl
  | step before earlier cursor next middle after _ presentBefore stepped ih =>
    rw [ih presentBefore (by simpa using split), Accessor.navigate, Access.runOn_bind_of_ok stepped]
    simp [present]

/-- What walking on gives: the segments before the last have been come to, or the walk stops at one
of them. -/
theorem of_navigate (comes : accessor.ComesTo world root before cursor middle)
    (present : cursor.value.isAbsent = false) {outcome : Except AccessError Parent}
    (run : (accessor.navigate cursor before segment later).runOn middle = (outcome, after)) :
    (∃ front last next, before ++ segment :: later = front ++ [last] ∧
      accessor.ComesTo world root front next after ∧ next.value.isAbsent = false ∧
      outcome = .ok ⟨next, front, last⟩) ∨
    ∃ front label rest error, before ++ segment :: later = front ++ label :: rest ∧ rest ≠ [] ∧
      accessor.StopsAt world root front label rest error after ∧ outcome = .error error := by
  induction later generalizing before segment cursor middle with
  | nil =>
    obtain ⟨rfl, rfl⟩ := Prod.mk.inj run
    exact .inl ⟨before, segment, cursor, rfl, comes, present, rfl⟩
  | cons next later ih =>
    rw [Accessor.navigate, Access.runOn_bind] at run
    rcases stepped : (accessor.step cursor before segment).runOn middle with
      ⟨(error | further), reached⟩
    · rw [stepped] at run
      obtain ⟨rfl, rfl⟩ := Prod.mk.inj run
      exact .inr ⟨before, segment, next :: later, error, rfl, by simp,
        .refused cursor middle error _ comes present stepped, rfl⟩
    · simp only [stepped] at run
      by_cases absent : further.value.isAbsent
      · simp only [absent, ↓reduceIte, Access.throw_bind, Access.runOn_throw] at run
        obtain ⟨rfl, rfl⟩ := Prod.mk.inj run
        exact .inr ⟨before, segment, next :: later, _, rfl, by simp,
          .absent cursor further middle _ comes present stepped absent (by simp), rfl⟩
      · have presentFurther : further.value.isAbsent = false := by simpa using absent
        simp only [absent, Bool.false_eq_true, ↓reduceIte] at run
        have onward := ComesTo.step before segment cursor further middle reached comes present
          stepped
        simpa using ih onward presentFurther run

end ComesTo

/-! ## Reads of a path -/

/-- The segments before the last have been read exactly if they come to a value that is present. -/
theorem parent_eq_ok_iff {parent : Parent} :
    (accessor.parent root path).runOn world = (.ok parent, after) ↔
      path.segments = parent.before ++ [parent.last] ∧
        accessor.ComesTo world root parent.before parent.cursor after ∧
        parent.cursor.value.isAbsent = false := by
  constructor
  · intro done
    rcases ComesTo.of_navigate .root rfl done with
      ⟨front, last, next, split, comes, present, same⟩ | ⟨_, _, _, error, _, _, _, same⟩
    · obtain rfl := Except.ok.inj same
      exact ⟨split, comes, present⟩
    · simp at same
  · rintro ⟨split, comes, present⟩
    exact comes.navigate present split

/-- Reading the segments before the last fails where the read stops at one of them. -/
theorem stopsAt_of_parent
    (failed : (accessor.parent root path).runOn world = (.error error, after)) :
    ∃ before segment later, path.segments = before ++ segment :: later ∧ later ≠ [] ∧
      accessor.StopsAt world root before segment later error after := by
  rcases ComesTo.of_navigate .root rfl failed with
    ⟨_, _, _, _, _, _, same⟩ | ⟨before, segment, later, error', split, more, stops, same⟩
  · simp at same
  · obtain rfl := Except.error.inj same
    exact ⟨before, segment, later, split, more, stops⟩

/-- Reading a path gives what is in the optionals that its segments come to. -/
theorem get_eq_ok_iff {value : Value} :
    (accessor.get root path).runOn world = (.ok value, after) ↔
      ∃ cursor, accessor.ComesTo world root path.segments cursor after ∧
        cursor.value.unwrapped = value := by
  constructor
  · intro done
    obtain ⟨parent, middle, walked, done⟩ := Access.runOn_bind_eq_ok_iff.1 done
    obtain ⟨cursor, reached, stepped, done⟩ := Access.runOn_bind_eq_ok_iff.1 done
    obtain ⟨split, comes, present⟩ := parent_eq_ok_iff.1 walked
    obtain ⟨rfl, rfl⟩ : cursor.value.unwrapped = value ∧ reached = after := by simpa using done
    exact ⟨cursor, split ▸ .step _ _ _ _ _ _ comes present stepped, rfl⟩
  · rintro ⟨cursor, comes, rfl⟩
    generalize whole : path.segments = segments at comes
    cases comes with
    | root => simp [PropertyPath.segments] at whole
    | step before segment previous _ middle _ comes present stepped =>
      have walked : (accessor.parent root path).runOn world =
          (.ok ⟨previous, before, segment⟩, middle) := parent_eq_ok_iff.2 ⟨whole, comes, present⟩
      rw [get, Access.runOn_bind_of_ok walked, Access.runOn_bind_of_ok stepped, Access.runOn_pure]

/-- A front of a path gives what is in the optionals that its segments come to. -/
theorem ComesTo.get_upTo (comes : accessor.ComesTo world root before cursor after)
    (split : path.segments = before ++ later) (nonempty : before ≠ []) :
    (accessor.get root (path.upTo before.length)).runOn world =
      (.ok cursor.value.unwrapped, after) := by
  refine get_eq_ok_iff.2 ⟨cursor, ?_, rfl⟩
  rw [PropertyPath.segments_upTo (List.length_pos_iff.2 nonempty), split, List.take_left]
  exact comes

/-- A front of a path that is read has been come to. -/
theorem exists_comesTo_of_get_upTo {count : Nat} (positive : 0 < count) {value : Value}
    (read : (accessor.get root (path.upTo count)).runOn world = (.ok value, after)) :
    ∃ cursor, accessor.ComesTo world root (path.segments.take count) cursor after ∧
      cursor.value.unwrapped = value := by
  rw [get_eq_ok_iff, PropertyPath.segments_upTo positive] at read
  exact read

/-- Reading a path fails where the read stops at a segment of it. -/
theorem stopsAt_of_get (failed : (accessor.get root path).runOn world = (.error error, after)) :
    ∃ before segment later, path.segments = before ++ segment :: later ∧
      accessor.StopsAt world root before segment later error after := by
  rcases Access.runOn_bind_eq_error_iff.1 failed with failed | ⟨parent, middle, walked, failed⟩
  · obtain ⟨before, segment, later, split, -, stops⟩ := stopsAt_of_parent failed
    exact ⟨before, segment, later, split, stops⟩
  · obtain ⟨split, comes, present⟩ := parent_eq_ok_iff.1 walked
    rcases Access.runOn_bind_eq_error_iff.1 failed with refused | ⟨_, _, _, failed⟩
    · exact ⟨parent.before, parent.last, [], split,
        .refused parent.cursor middle error after comes present refused⟩
    · simp at failed

/-- Where a read stops at a segment of a path, reading the path fails. -/
theorem StopsAt.get (stops : accessor.StopsAt world root before segment later error after)
    (split : path.segments = before ++ segment :: later) :
    (accessor.get root path).runOn world = (.error error, after) := by
  cases stops with
  | refused cursor middle _ _ comes present refused =>
    cases later with
    | nil =>
      have walked : (accessor.parent root path).runOn world =
          (.ok ⟨cursor, before, segment⟩, middle) := parent_eq_ok_iff.2 ⟨split, comes, present⟩
      rw [Accessor.get, Access.runOn_bind_of_ok walked, Access.runOn_bind_of_error refused]
    | cons next later =>
      have walked : (accessor.parent root path).runOn world = _ := comes.navigate present split
      rw [navigate, Access.runOn_bind_of_error refused] at walked
      exact Access.runOn_bind_of_error walked _
  | absent cursor next middle _ comes present stepped absent more =>
    obtain ⟨further, later, rfl⟩ := List.exists_cons_of_ne_nil more
    have walked : (accessor.parent root path).runOn world = _ := comes.navigate present split
    rw [navigate, Access.runOn_bind_of_ok stepped] at walked
    simp only [absent, ↓reduceIte, Access.throw_bind, Access.runOn_throw] at walked
    exact Access.runOn_bind_of_error walked _

/-- A name that is not read names the segments up to it, and it does not tell of an absent value. -/
theorem property?_of_readName {walked : List Segment} {ref : BeanRef} {label : String}
    (refused : (accessor.readName walked ref label).runOn middle = (.error error, after)) :
    error.property? = some (Segment.render walked) ∧
      ∀ property owner, error ≠ .nullValue property owner := by
  simp only [readName] at refused
  split at refused
  case h_1 info _ =>
    split at refused
    case isTrue =>
      rcases Access.runOn_bind_eq_error_iff.1 refused with refused | ⟨_, _, _, done⟩
      · rw [Access.runOn_invoke] at refused
        cases shown : (middle.read ref info).1 with
        | error cause =>
          simp only [shown, Access.mapError_error, Prod.mk.injEq, Except.error.injEq] at refused
          simp [← refused.1, AccessError.property?]
        | ok value => simp [shown] at refused
      · simp at done
    case isFalse =>
      obtain ⟨rfl, -⟩ : _ = error ∧ _ := by simpa using refused
      simp [AccessError.property?]
  case h_2 =>
    rw [handleCursor, Access.runOn_bind_of_ok (Access.runOn_ofWorld _ middle)] at refused
    simp at refused
  case h_3 =>
    obtain ⟨rfl, -⟩ : _ = error ∧ _ := by simpa using refused
    simp [AccessError.property?]

/-- A step that is refused names the segments up to it, and it does not tell of an absent value. -/
theorem property?_of_step
    (refused : (accessor.step cursor before segment).runOn middle = (.error error, after)) :
    error.property? = some (Segment.render (before ++ [segment])) ∧
      ∀ property owner, error ≠ .nullValue property owner := by
  simp only [step] at refused
  split at refused
  case h_1 => exact property?_of_readName refused
  case h_2 items key quoted _ =>
    cases isIndex : listIndex? key with
    | none =>
      obtain ⟨rfl, -⟩ : _ = error ∧ _ := by simpa [listIndex, isIndex] using refused
      simp [AccessError.property?]
    | some index =>
      simp only [listIndex, isIndex, pure_bind] at refused
      split at refused
      · simp at refused
      · obtain ⟨rfl, -⟩ : _ = error ∧ _ := by simpa using refused
        simp [AccessError.property?]
  case h_3 => simp at refused
  case h_4 =>
    obtain ⟨rfl, -⟩ : _ = error ∧ _ := by simpa using refused
    simp [unsupported, AccessError.property?]

/-- A read that stops at a segment names the segments up to it. -/
theorem StopsAt.property?_eq
    (stops : accessor.StopsAt world root before segment later error after) :
    error.property? = some (Segment.render (before ++ [segment])) := by
  cases stops with
  | refused cursor middle _ _ comes present refused => exact (property?_of_step refused).1
  | absent => rfl

end

end PropertyGraph.Accessor
