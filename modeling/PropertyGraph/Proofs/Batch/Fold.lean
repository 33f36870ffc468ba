import Mathlib.Data.List.Nodup
import PropertyGraph.Batch.Update
import PropertyGraph.Proofs.Write.Alike

/-!
# A batch is the fold of its sets

A batch does to the graph what setting each of its values in order does, whatever its options are:
the records that it adds between the sets are seen by none of them. The options only choose which
failures are left out of its outcome, and nothing else is lost: the entries of the outcome are the
results of the sets in order, its changes and failures are these entries told apart, and the failure
of a name is found by the name.
-/
namespace PropertyGraph

/-- Segments stand for themselves, and are told of as they are. -/
def Likeness.same : Likeness :=
  .retelling {
    tell := id
    rows := Eq
    told := congrArg Segment.render
    onward := fun segment => congrArg (· ++ [segment]) }

/-- Results that differ in nothing are the same. -/
theorem OutcomesAlike.eq {α : Type} {values : α → α → Prop} {left right : Except AccessError α}
    (alike : OutcomesAlike .same values left right)
    (same : ∀ value other, values value other → value = other) : left = right := by
  rw [alike.eq_retold same]
  cases right with
  | ok value => rfl
  | error error => exact congrArg Except.error error.retold_id

/-! ## Names -/

namespace PropertyValues

/-- The names after a put are those before it, with the new one at the end if it was not there. -/
theorem names_put (entry : PropertyValue) (entries : List PropertyValue) :
    (put entry entries).map (·.name) =
      if entry.name ∈ entries.map (·.name) then entries.map (·.name)
      else entries.map (·.name) ++ [entry.name] := by
  induction entries with
  | nil => simp [put]
  | cons other rest ih =>
    by_cases same : other.name = entry.name
    · simp [put, same]
    · have different : entry.name ≠ other.name := Ne.symm same
      by_cases among : entry.name ∈ rest.map (·.name) <;> simp_all [put]

/-- A value that is added keeps the names distinct. -/
theorem nodup_names_add {values : PropertyValues} (distinct : values.names.Nodup) (name : String)
    (value : Value) : (values.add name value).names.Nodup := by
  rw [names, add, names_put]
  split
  · exact distinct
  · next missing =>
    rw [List.nodup_append]
    refine ⟨distinct, List.nodup_singleton _, ?_⟩
    rintro other among _ only rfl
    rw [List.mem_singleton.1 only] at among
    exact missing among

/-- The names of values that come from pairs are distinct. -/
theorem nodup_names_ofPairs (pairs : List (String × Value)) : (ofPairs pairs).names.Nodup := by
  have added : ∀ (pairs : List (String × Value)) (values : PropertyValues), values.names.Nodup →
      (values.addAll pairs).names.Nodup := by
    intro pairs
    induction pairs with
    | nil => exact fun values distinct => distinct
    | cons pair rest ih => exact fun values distinct => ih _ (nodup_names_add distinct _ _)
  exact added pairs empty List.nodup_nil

end PropertyValues

/-- A failure that is left out of the outcome of a batch. -/
def BatchOptions.leavesOut (options : BatchOptions) : Except AccessError PropertyChange → Bool
  | .ok _ => false
  | .error error => options.ignores error

/-- The value could not be written. -/
def BatchEntry.isFailed (entry : BatchEntry) : Bool :=
  match entry.result with
  | .ok _ => false
  | .error _ => true

/-- The entry of a value that could not be written. -/
def PropertyFailure.entry (failure : PropertyFailure) : BatchEntry :=
  ⟨failure.property, failure.value, .error failure.error⟩

/-! ## Outcomes -/

namespace BatchOutcome

variable {outcome : BatchOutcome}

/-- The failures are the failed entries in order. -/
theorem failures_map_entry (outcome : BatchOutcome) :
    outcome.failures.map PropertyFailure.entry = outcome.entries.filter (·.isFailed) := by
  rw [failures]
  induction outcome.entries with
  | nil => rfl
  | cons entry rest ih =>
    obtain ⟨property, value, result⟩ := entry
    cases result with
    | ok change => simpa [BatchEntry.isFailed] using ih
    | error error => simpa [BatchEntry.isFailed, PropertyFailure.entry] using ih

/-- An entry that cannot be told from another one is of the same failure. -/
theorem entry_injective : Function.Injective PropertyFailure.entry := by
  rintro ⟨property, value, error⟩ ⟨property', value', error'⟩ same
  simp only [PropertyFailure.entry, BatchEntry.mk.injEq, Except.error.injEq] at same
  obtain ⟨rfl, rfl, rfl⟩ := same
  rfl

/-- The failures that are counted are the entries that failed. -/
theorem failureCount_eq (outcome : BatchOutcome) :
    outcome.failureCount = outcome.entries.countP (·.isFailed) := by
  rw [failureCount, List.countP_eq_length_filter, ← failures_map_entry, List.length_map]

/-- The entries without a failure among them are changes, in order. -/
theorem results_eq_iff (entries : List BatchEntry) (changes : List PropertyChange) :
    entries.map (·.result) = changes.map .ok ↔
      entries.filter (·.isFailed) = [] ∧
        (entries.filterMap fun entry => entry.result.toOption) = changes := by
  induction entries generalizing changes with
  | nil => cases changes <;> simp
  | cons entry rest ih =>
    obtain ⟨property, value, result⟩ := entry
    cases result with
    | error error => cases changes <;> simp [BatchEntry.isFailed]
    | ok change =>
      cases changes with
      | nil => simp [Except.toOption]
      | cons first others =>
        simp only [List.map_cons, List.cons.injEq, Except.ok.injEq, ih]
        simp [BatchEntry.isFailed, Except.toOption]
        tauto

/-- A batch succeeds if every entry is a change, and gives these in order. -/
theorem toResult_eq_ok_iff {changes : List PropertyChange} :
    outcome.toResult = .ok changes ↔ outcome.entries.map (·.result) = changes.map .ok := by
  rw [results_eq_iff, ← failures_map_entry, List.map_eq_nil_iff, toResult, BatchOutcome.changes]
  cases outcome.failures <;> simp

/-- A batch fails if an entry failed, and gives the failed entries in order. -/
theorem toResult_eq_error_iff {error : BatchUpdateError} :
    outcome.toResult = .error error ↔ error.failures ≠ [] ∧
      error.failures.map PropertyFailure.entry = outcome.entries.filter (·.isFailed) := by
  obtain ⟨failures⟩ := error
  rw [← failures_map_entry, entry_injective.list_map.eq_iff, toResult]
  cases found : outcome.failures with
  | nil => simp
  | cons first others =>
    simp only [List.isEmpty_cons, Bool.false_eq_true, ↓reduceIte, Except.error.injEq,
      BatchUpdateError.mk.injEq]
    exact ⟨fun same => ⟨by simp [← same], same.symm⟩, fun same => same.2.symm⟩

end BatchOutcome

/-- Where items have names of their own, the item of a name is the only one of it. -/
theorem find?_eq_some_iff_of_nodup {α : Type} {named : α → String} {items : List α}
    (distinct : (items.map named).Nodup) {name : String} {item : α} :
    items.find? (named · == name) = some item ↔ item ∈ items ∧ named item = name := by
  constructor
  · intro found
    exact ⟨List.mem_of_find?_eq_some found, by simpa using List.find?_some found⟩
  · rintro ⟨among, rfl⟩
    have isThere : (items.find? (named · == named item)).isSome := by
      rw [List.find?_isSome]
      exact ⟨item, among, by simp⟩
    obtain ⟨found, isFound⟩ := Option.isSome_iff_exists.1 isThere
    have sameName : named found = named item := by simpa using List.find?_some isFound
    have same : found = item :=
      List.inj_on_of_nodup_map distinct (List.mem_of_find?_eq_some isFound) among sameName
    rw [isFound, same]

/-- Where failures have names of their own, the failure of a name is the only one of it. -/
theorem BatchUpdateError.failure?_eq_some_iff {error : BatchUpdateError}
    (distinct : (error.failures.map (·.property)).Nodup) {name : String}
    {failure : PropertyFailure} :
    error.failure? name = some failure ↔ failure ∈ error.failures ∧ failure.property = name :=
  find?_eq_some_iff_of_nodup distinct

/-! ## Runs -/

namespace Accessor

open Access (Alike)

/-- Sets values in order. -/
def setEach (accessor : Accessor) (root : BeanRef) (entries : List PropertyValue) :
    StateM World (List (Except AccessError PropertyChange)) :=
  entries.mapM fun entry => (accessor.setText root entry.name entry.value).run

section

variable {accessor : Accessor} {root : BeanRef} {world start : World}

/-- Setting a value gives the same whatever is recorded. -/
theorem setText_same (alike : accessor.ConstructsAlike) (root : BeanRef) (text : String)
    (raw : Value) (graph : world.SameGraph start) :
    ((accessor.setText root text raw).runOn world).1 =
        ((accessor.setText root text raw).runOn start).1 ∧
      ((accessor.setText root text raw).runOn world).2.SameGraph
        ((accessor.setText root text raw).runOn start).2 := by
  cases parsed : PropertyPath.parse text with
  | error cause =>
    rw [setText, parsePath, parsed]
    exact ⟨rfl, graph⟩
  | ok path =>
    rw [setText, parsePath_of_parse parsed, pure_bind]
    have stands (segment : Segment) : Likeness.same.segments segment segment := rfl
    have runs : RunsAlike .same (ChangesAlike .same) ((accessor.set root path raw).runOn world)
        ((accessor.set root path raw).runOn start) :=
      setWith_alike alike accessor.options raw rfl rfl graph
        (fun _ => .refl stands _ _ _ _ _) fun _ _ _ => .refl _ stands _ _ _ _ _
    refine ⟨runs.outcome.eq ?_, runs.graph⟩
    rintro ⟨property, oldValue?, newValue⟩ ⟨_, _, _⟩ ⟨rfl, rfl, rfl⟩
    rfl

/-- The entry that a value of a batch leaves in the outcome. -/
def kept? (options : BatchOptions) (entry : PropertyValue)
    (result : Except AccessError PropertyChange) : Option BatchEntry :=
  if options.leavesOut result then none else some ⟨entry.name, entry.value, result⟩

/-- Steps of a batch are run one after the other. -/
theorem run_bind {α β : Type} (first : StateM World α) (next : α → StateM World β)
    (world : World) :
    (first >>= next).run world = (next (first.run world).1).run (first.run world).2 :=
  rfl

variable (accessor) in
/-- Trying a value of a batch is setting it, and recording the failure. -/
theorem run_applyOne (options : BatchOptions) (root : BeanRef) (entry : PropertyValue)
    (world : World) :
    let done := (accessor.setText root entry.name entry.value).runOn world
    ((accessor.applyOne options root entry).run world).1 = kept? options entry done.1 ∧
      ((accessor.applyOne options root entry).run world).2.SameGraph done.2 := by
  intro done
  have ran : (accessor.setText root entry.name entry.value).run.run world = done := rfl
  obtain ⟨result, after⟩ := done
  rw [applyOne, run_bind, ran]
  cases result with
  | ok change => exact ⟨rfl, .refl after⟩
  | error error =>
    by_cases ignored : options.ignores error
    · simp only [kept?, BatchOptions.leavesOut, ignored, ↓reduceIte]
      exact ⟨rfl, rfl, rfl⟩
    · simp only [kept?, BatchOptions.leavesOut, ignored, Bool.false_eq_true, ↓reduceIte]
      exact ⟨rfl, rfl, rfl⟩

/-- The entries that values leave in the outcome of a batch, given their results. -/
def keptOf (options : BatchOptions) (entries : List PropertyValue)
    (results : List (Except AccessError PropertyChange)) : List BatchEntry :=
  ((entries.zip results).filter fun tried => !options.leavesOut tried.2).map fun tried =>
    ⟨tried.1.name, tried.1.value, tried.2⟩

/-- The first value leaves its entry, if it leaves one, in front of those of the others. -/
theorem keptOf_cons (options : BatchOptions) (entry : PropertyValue) (entries : List PropertyValue)
    (result : Except AccessError PropertyChange)
    (results : List (Except AccessError PropertyChange)) :
    keptOf options (entry :: entries) (result :: results) =
      (kept? options entry result).toList ++ keptOf options entries results := by
  by_cases leftOut : options.leavesOut result <;> simp [keptOf, kept?, leftOut]

/-- Setting the first value of a batch, and then the others. -/
theorem run_setEach_cons (entry : PropertyValue) (entries : List PropertyValue) (world : World) :
    let done := (accessor.setText root entry.name entry.value).runOn world
    let others := (accessor.setEach root entries).run done.2
    (accessor.setEach root (entry :: entries)).run world = (done.1 :: others.1, others.2) := by
  intro done others
  rw [setEach, List.mapM_cons, run_bind, run_bind]
  rfl

/-- Trying values leaves the graph that setting them leaves, and the entries of their results. By
induction on the values; the worlds differ in what the batch has recorded before. -/
theorem run_applyEach (alike : accessor.ConstructsAlike) (options : BatchOptions) (root : BeanRef)
    (entries : List PropertyValue) (graph : start.SameGraph world) :
    let set := (accessor.setEach root entries).run world
    let tried := (accessor.applyEach options root entries).run start
    tried.1 = keptOf options entries set.1 ∧ tried.2.SameGraph set.2 ∧
      set.1.length = entries.length := by
  induction entries generalizing start world with
  | nil => exact ⟨rfl, graph, rfl⟩
  | cons entry entries ih =>
    rw [run_setEach_cons]
    obtain ⟨sameResult, sameGraph⟩ := setText_same alike root entry.name entry.value graph
    obtain ⟨kept, recorded⟩ := accessor.run_applyOne options root entry start
    obtain ⟨keptOthers, graphOthers, count⟩ := ih (recorded.trans sameGraph)
    rw [applyEach, run_bind, run_bind, kept, sameResult]
    refine ⟨?_, graphOthers, congrArg (· + 1) count⟩
    rw [keptOf_cons, ← keptOthers]
    rfl

variable (options : BatchOptions) (values : PropertyValues)

/-- Values with names of their own leave failures with names of their own. -/
theorem nodup_failures {outcome : BatchOutcome}
    {results : List (Except AccessError PropertyChange)}
    (kept : outcome.entries = keptOf options values.entries results)
    (count : results.length = values.entries.length) (distinct : values.names.Nodup) :
    (outcome.failures.map (·.property)).Nodup := by
  have named : outcome.failures.map (·.property) =
      (outcome.entries.filter (·.isFailed)).map (·.property) := by
    rw [← BatchOutcome.failures_map_entry, List.map_map]
    rfl
  have tried : (values.entries.zip results).map (·.1.name) = values.names := by
    have firsts := List.map_fst_zip (Nat.le_of_eq count.symm)
    rw [PropertyValues.names, ← firsts, List.map_map, firsts]
    rfl
  have among : (outcome.entries.map (·.property)).Sublist values.names := by
    rw [kept, keptOf, List.map_map, ← tried]
    exact List.filter_sublist.map _
  rw [named]
  exact distinct.sublist ((List.filter_sublist.map _).trans among)

/-- A batch is the fold of its sets and loses nothing. Whatever the options, it leaves the graph
that setting each value in order leaves, and its entries are, in order, those of all results but the
failures that are left out. It counts the failed entries, succeeds with all changes if there is
none, and else fails with exactly the failed entries; with distinct names, the failure of a name is
the only one of it. -/
theorem applyBatch_eq_fold (alike : accessor.ConstructsAlike) (root : BeanRef)
    (values : PropertyValues) (world : World) :
    let sets := (accessor.setEach root values.entries).run world
    sets.1.length = values.entries.length ∧ ∀ options : BatchOptions,
      let outcome := ((accessor.applyBatch options root values).run world).1
      ((accessor.applyBatch options root values).run world).2.SameGraph sets.2 ∧
      outcome.entries = keptOf options values.entries sets.1 ∧
      outcome.failureCount = outcome.entries.countP (·.isFailed) ∧
      (∀ changes, outcome.toResult = .ok changes ↔
        outcome.entries.map (·.result) = changes.map .ok) ∧
      (∀ error, outcome.toResult = .error error ↔ error.failures ≠ [] ∧
        error.failures.map PropertyFailure.entry = outcome.entries.filter (·.isFailed)) ∧
      (values.names.Nodup → ∀ error, outcome.toResult = .error error → ∀ name failure,
        error.failure? name = some failure ↔
          failure ∈ error.failures ∧ failure.property = name) := by
  intro sets
  have each (options : BatchOptions) :=
    run_applyEach alike options root values.entries (World.SameGraph.refl world)
  refine ⟨(each {}).2.2, fun options => ?_⟩
  obtain ⟨kept, graph, count⟩ := each options
  intro outcome
  refine ⟨graph, kept, outcome.failureCount_eq, fun _ => BatchOutcome.toResult_eq_ok_iff,
    fun _ => BatchOutcome.toResult_eq_error_iff, fun distinct error failed name failure => ?_⟩
  obtain ⟨-, failures⟩ := BatchOutcome.toResult_eq_error_iff.1 failed
  have same : error.failures = outcome.failures :=
    BatchOutcome.entry_injective.list_map (failures.trans outcome.failures_map_entry.symm)
  have named : (error.failures.map (·.property)).Nodup :=
    same ▸ nodup_failures options values kept count distinct
  exact BatchUpdateError.failure?_eq_some_iff named

end

open Household in
/-- Of four values for Eve one names no property, which is left out, and one leads beyond her
friends, which is the failure of the batch. The other two are written. -/
theorem applyBatch_household :
    let values := PropertyValues.ofPairs [("name", .text "Eva"), ("age", .text "30"),
      ("friends[7].name", .text "Ida"), ("friends[0].name", .text "Anna")]
    let sets := (accessor.setEach eve values.entries).run (world [])
    let outcome := ((accessor.applyBatch { ignoreUnknown := true } eve values).run (world [])).1
    values.names.Nodup ∧ outcome.entries = keptOf { ignoreUnknown := true } values.entries sets.1 ∧
      outcome.entries.map (·.property) = ["name", "friends[7].name", "friends[0].name"] ∧
      outcome.failureCount = 1 ∧
      ∃ failure, outcome.toResult = .error ⟨[failure]⟩ ∧
        (BatchUpdateError.mk [failure]).failure? "friends[7].name" = some failure := by
  intro values sets outcome
  have alike : accessor.ConstructsAlike := constructsAlike_of_layout rfl
  have distinct : values.names.Nodup := PropertyValues.nodup_names_ofPairs _
  obtain ⟨-, each⟩ := applyBatch_eq_fold alike eve values (world [])
  obtain ⟨-, entries, -, -, -, find⟩ := each { ignoreUnknown := true }
  have count : outcome.failureCount = 1 := by decide +kernel
  have named : outcome.failures.map (·.property) = ["friends[7].name"] := by decide +kernel
  refine ⟨distinct, entries, by decide +kernel, count, ?_⟩
  obtain ⟨failure, only⟩ := List.length_eq_one_iff.1 count
  have failed : outcome.toResult = .error ⟨[failure]⟩ := by
    rw [BatchOutcome.toResult, only]
    rfl
  have sameName : failure.property = "friends[7].name" := by
    rw [only] at named
    exact List.singleton_inj.1 named
  exact ⟨failure, failed,
    (find distinct _ failed _ failure).2 ⟨List.mem_singleton_self _, sameName⟩⟩

end Accessor

end PropertyGraph
