import PropertyGraph.Proofs.Read.Trail
import PropertyGraph.Proofs.Value.Keys

/-!
# Where paths lead

A row of segments arrives at a value if every one of them is read in turn, each from a value that
is present, and nothing of the world changes. `Arrives` is built from the front, as a path is
walked; `Arrives.get` says that this is what reading the path gives.
-/
namespace PropertyGraph.Accessor

/-- The bean that a row of segments leads to, read from a root without any change of the world. -/
def Leads (accessor : Accessor) (world : World) (root : BeanRef) : List Segment → BeanRef → Prop
  | [], ref => ref = root
  | first :: later, ref =>
    (accessor.get root ⟨first, later⟩).runOn world = (.ok (.bean ref), world)

/-- A row of segments leads to one bean. -/
theorem Leads.unique {accessor : Accessor} {world : World} {root ref other : BeanRef}
    {segments : List Segment} (leads : accessor.Leads world root segments ref)
    (leads' : accessor.Leads world root segments other) : ref = other := by
  cases segments with
  | nil => exact Eq.trans leads (Eq.symm leads')
  | cons first later =>
    rw [Leads] at leads leads'
    simpa using leads.symm.trans leads'

/-- Where a row of segments leads to a bean, it is read in turn to that bean. -/
theorem Leads.comesTo {accessor : Accessor} {world : World} {root ref : BeanRef}
    {segments : List Segment} (leads : accessor.Leads world root segments ref) :
    ∃ cursor, accessor.ComesTo world root segments cursor world ∧
      cursor.value.unwrapped = .bean ref := by
  cases segments with
  | nil =>
    obtain rfl : ref = root := leads
    exact ⟨.root ref, .root, rfl⟩
  | cons first later => exact get_eq_ok_iff.1 leads

/-- A row of segments is read in turn, each from a value that is present. -/
inductive Reads (accessor : Accessor) (world : World) (root : BeanRef) :
    List Segment → Cursor → Prop
  | root : Reads accessor world root [] (.root root)
  | step (before : List Segment) (segment : Segment) (cursor next : Cursor) :
    Reads accessor world root before cursor → cursor.value.isAbsent = false →
    (accessor.step cursor before segment).runOn world = (.ok next, world) →
    Reads accessor world root (before ++ [segment]) next

/-- A row of segments arrives at a value. -/
def Arrives (accessor : Accessor) (world : World) (root : BeanRef) (segments : List Segment)
    (value : Value) : Prop :=
  ∃ cursor, accessor.Reads world root segments cursor ∧ cursor.value = value

section

variable {accessor : Accessor} {world : World} {root ref : BeanRef} {before : List Segment}

/-- What is read without a change of the world has come to its cursor in that world. -/
theorem Reads.comesTo {segments : List Segment} {cursor : Cursor}
    (reads : accessor.Reads world root segments cursor) :
    accessor.ComesTo world root segments cursor world := by
  induction reads with
  | root => exact .root
  | step before segment cursor next _ present stepped ih =>
    exact .step before segment cursor next world world ih present stepped

/-- Reading a path gives the value that its segments arrive at, without optionals. -/
theorem Arrives.get {first : Segment} {later : List Segment} {value : Value}
    (arrives : accessor.Arrives world root (first :: later) value) :
    (accessor.get root ⟨first, later⟩).runOn world = (.ok value.unwrapped, world) := by
  obtain ⟨cursor, reads, rfl⟩ := arrives
  exact get_eq_ok_iff.2 ⟨cursor, reads.comesTo, rfl⟩

/-- No segments arrive at the root. -/
theorem Arrives.at_root : accessor.Arrives world root [] (.bean root) :=
  ⟨.root root, .root, rfl⟩

/-- Where a row of segments arrives at a bean, it leads to that bean. -/
theorem Arrives.leads {value : Value} (arrives : accessor.Arrives world root before value)
    (core : value.core = .bean ref) : accessor.Leads world root before ref := by
  cases before with
  | nil =>
    obtain ⟨cursor, reads, rfl⟩ := arrives
    generalize none : ([] : List Segment) = segments at reads
    cases reads with
    | root =>
      simp only [Cursor.root, Value.core, Value.bean.injEq] at core
      exact core.symm
    | step => simp at none
  | cons first later =>
    have read := arrives.get
    rw [Value.unwrapped_eq_core, core] at read
    simpa [Leads, Value.isAbsent] using read

/-- A property is read from the bean that was arrived at. -/
theorem Arrives.name {value child : Value} {info : PropertyInfo} {name : String}
    (arrives : accessor.Arrives world root before value) (core : value.core = .bean ref)
    (names : accessor.capability? ref.type name = some (.property info))
    (readable : info.isReadable = true)
    (read : (Access.invoke (before ++ [.name name]) ref (·.read ref info)).runOn world =
      (.ok child, world)) :
    accessor.Arrives world root (before ++ [.name name]) child := by
  obtain ⟨cursor, reads, rfl⟩ := arrives
  have unwrapped : cursor.value.unwrapped = .bean ref := by
    simp [Value.unwrapped_eq_core, core, Value.isAbsent]
  have present : cursor.value.isAbsent = false :=
    Value.isAbsent_of_core (by simp [core, Value.isAbsent])
  refine ⟨⟨child, info.type, ref.type, true, info.isWritable⟩,
    .step before (.name name) cursor _ reads present ?_, rfl⟩
  simp only [step, unwrapped, readName, names, readable, ↓reduceIte]
  rw [Access.runOn_bind_of_ok read, Access.runOn_pure]

/-- The element of a key is read from the collection under the cursor. -/
theorem runOn_step_key {cursor : Cursor} {segment : Segment} {slot : Value}
    (found : cursor.value.slot? segment = some slot) :
    (accessor.step cursor before segment).runOn world = (.ok (cursor.element slot), world) := by
  cases segment with
  | name label => simp [Value.slot?] at found
  | key label quoted =>
    have unwrapped := Value.unwrapped_eq_core cursor.value
    simp only [Value.slot?] at found
    split at found
    case h_1 items core =>
      obtain ⟨index, isIndex, found⟩ := Option.bind_eq_some_iff.1 found
      simp [step, unwrapped, core, Value.isAbsent, listIndex, isIndex, found]
    case h_2 entries core =>
      simp [step, unwrapped, core, Value.isAbsent, found]
    case h_3 => simp at found

/-- A key arrives at the slot that it leads to. -/
theorem Arrives.key {value slot : Value} {segment : Segment}
    (arrives : accessor.Arrives world root before value)
    (found : value.slot? segment = some slot) :
    accessor.Arrives world root (before ++ [segment]) slot := by
  obtain ⟨cursor, reads, rfl⟩ := arrives
  have present : cursor.value.isAbsent = false := by
    cases segment <;> cases holds : cursor.value <;>
      simp_all [Value.slot?, Value.core, Value.isAbsent]
  exact ⟨_, .step before segment cursor _ reads present (runOn_step_key found), rfl⟩

/-- A row of keys leads from a value that was arrived at to the value behind them. -/
theorem Arrives.follow {keys : List Segment} {value slot : Value}
    (arrives : accessor.Arrives world root before value) (found : value.follow? keys = some slot) :
    accessor.Arrives world root (before ++ keys) slot := by
  induction keys generalizing before value with
  | nil =>
    obtain rfl : value = slot := by simpa [Value.follow?] using found
    simpa using arrives
  | cons segment later ih =>
    obtain ⟨next, here, further⟩ := Option.bind_eq_some_iff.1 found
    simpa using ih (arrives.key here) further

end

end PropertyGraph.Accessor
