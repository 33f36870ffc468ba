import PropertyGraph.Proofs.Access.Fields
import PropertyGraph.Proofs.Read.Arrival

/-!
# Reading onward from a value

What a row of segments gives when it is read from a value on the way of a path. The first step leads
to a further value, which has to be present if more segments follow.
-/
namespace PropertyGraph.Accessor

/-- A row of segments is read from a value with a result. -/
def ReadsTo (accessor : Accessor) (world : World) (start : Value) (segments : List Segment)
    (result : Value) : Prop :=
  ∀ (cursor : Cursor) (before : List Segment) (first : Segment) (later : List Segment),
    segments = first :: later → cursor.value = start →
    ∃ last, (do
      let parent ← accessor.navigate cursor before first later
      accessor.step parent.cursor parent.before parent.last).runOn world = (.ok last, world) ∧
        last.value.unwrapped = result

/-- One step leads from a value to another. -/
def StepsTo (accessor : Accessor) (world : World) (start : Value) (segment : Segment)
    (next : Value) : Prop :=
  ∀ (cursor : Cursor) (before : List Segment), cursor.value = start →
    ∃ last, (accessor.step cursor before segment).runOn world = (.ok last, world) ∧
      last.value = next

variable {accessor : Accessor} {world : World} {start next result : Value}
  {segment other : Segment} {later : List Segment}

/-- A name steps to the value of the field that its property shows. -/
theorem stepsTo_name {ref : BeanRef} {label : String} {info : PropertyInfo} {field : String}
    {type : FieldType} (core : start.core = .bean ref)
    (names : accessor.capability? ref.type label = some (.property info))
    (shows : info.ShowsField ref.type field type) (readable : info.isReadable = true)
    (has : world.Has ref) (free : world.isHeldExclusively ref = false) :
    accessor.StepsTo world start (.name label) (world.shown ref field) := by
  rintro cursor before rfl
  have unwrapped : cursor.value.unwrapped = .bean ref := by
    simp [Value.unwrapped_eq_core, core, Value.isAbsent]
  have read := runOn_read shows readable has (before ++ [.name label])
  simp only [free, Bool.false_eq_true, ↓reduceIte] at read
  refine ⟨⟨world.shown ref field, info.type, ref.type, true, info.isWritable⟩, ?_, rfl⟩
  simp only [step, unwrapped, readName, names, readable, ↓reduceIte]
  rw [Access.runOn_bind_of_ok read, Access.runOn_pure]

/-- A key steps to the element or the entry that it leads to. -/
theorem stepsTo_key (found : start.slot? segment = some next) :
    accessor.StepsTo world start segment next := by
  rintro cursor before rfl
  exact ⟨_, runOn_step_key found, rfl⟩

/-- A step to a value reads the path of that step. -/
theorem StepsTo.readsTo (steps : accessor.StepsTo world start segment next)
    (unwrapped : next.unwrapped = result) : accessor.ReadsTo world start [segment] result := by
  intro cursor before first later split same
  obtain ⟨rfl, rfl⟩ : segment = first ∧ [] = later := by simpa using split
  obtain ⟨last, stepped, rfl⟩ := steps cursor before same
  exact ⟨last, by simpa [navigate] using stepped, unwrapped⟩

/-- Only a value that is present can be read from. -/
theorem ReadsTo.present (reads : accessor.ReadsTo world start (segment :: later) result) :
    start.isAbsent = false := by
  refine Bool.eq_false_iff.2 fun absent => ?_
  have unwrapped : start.unwrapped = .null := by
    cases start <;> simp_all [Value.isAbsent, Value.unwrapped, Value.present?]
  obtain ⟨last, run, -⟩ := reads ⟨start, .any, default, true, true⟩ [] segment later rfl rfl
  have fails : ∀ next, (accessor.step ⟨start, .any, default, true, true⟩ [] segment).runOn world ≠
      (.ok next, world) := by
    intro next stepped
    simp [step, unwrapped] at stepped
  cases later with
  | nil => exact fails last (by simpa [navigate] using run)
  | cons other later =>
    simp only [navigate, bind_assoc] at run
    obtain ⟨next, middle, stepped, -⟩ := Access.runOn_bind_eq_ok_iff.1 run
    simp [step, unwrapped] at stepped

/-- A step is followed by what is read from the value that it leads to. -/
theorem StepsTo.trans (steps : accessor.StepsTo world start segment next)
    (reads : accessor.ReadsTo world next (other :: later) result) :
    accessor.ReadsTo world start (segment :: other :: later) result := by
  intro cursor before first rest split same
  obtain ⟨rfl, rfl⟩ : segment = first ∧ other :: later = rest := by simpa using split
  obtain ⟨middle, stepped, rfl⟩ := steps cursor before same
  obtain ⟨last, run, unwrapped⟩ := reads middle (before ++ [segment]) other later rfl rfl
  refine ⟨last, ?_, unwrapped⟩
  rw [navigate, bind_assoc, Access.runOn_bind_of_ok stepped]
  simpa [reads.present] using run

/-- Reading a path is reading its segments from the root. -/
theorem ReadsTo.get {root : BeanRef} {path : PropertyPath}
    (reads : accessor.ReadsTo world (.bean root) path.segments result) :
    (accessor.get root path).runOn world = (.ok result, world) := by
  obtain ⟨last, run, unwrapped⟩ := reads (.root root) [] path.first path.later rfl rfl
  have sequence : accessor.get root path = (do
      let parent ← accessor.navigate (.root root) [] path.first path.later
      accessor.step parent.cursor parent.before parent.last) >>= fun cursor =>
        pure cursor.value.unwrapped := by
    simp [Accessor.get, parent]
  rw [sequence, Access.runOn_bind_of_ok run, Access.runOn_pure, unwrapped]

end PropertyGraph.Accessor
