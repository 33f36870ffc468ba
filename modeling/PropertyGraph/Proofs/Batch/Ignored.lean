import PropertyGraph.Proofs.Batch.Fold
import PropertyGraph.Proofs.Read.Observation
import PropertyGraph.Proofs.Write.Stops

/-!
# Failures that a batch leaves out

A batch that ignores unknown properties leaves out every failure of a name that cannot be written.
Such a failure comes from a name that is looked up on a bean and is no property there, or one
without a setter. It need not be the last name of the path: also a property on the way is written,
where it was absent and a value has been made for it, and where the path goes on into a collection
that it holds. The last name is the one that cannot be written exactly if nothing but keys is behind
the name that the error tells of.
-/
namespace PropertyGraph

/-- An error of a name that cannot be written tells of a bean type. -/
theorem AccessError.owner?_ne_none_of_isUnknownProperty (error : AccessError)
    (unknown : error.isUnknownProperty = true) : error.owner? ≠ none := by
  cases error with
  | notWritable => simp [owner?]
  | _ => simp [isUnknownProperty] at unknown

namespace Accessor

/-- The path leads to a bean on which its last name is looked up, and there the name is no property,
or one that cannot be written. -/
def LacksLast (accessor : Accessor) (request : WriteRequest) (world : World) (root : BeanRef)
    (path : PropertyPath) : Prop :=
  ∃ front label keys ref, path.segments = front ++ .name label :: keys ∧
    (∀ segment ∈ keys, segment.isName = false) ∧
    accessor.WrittenAt request world root front ref ∧
    ∀ info, accessor.capability? ref.type label = some (.property info) → info.isWritable = false

/-- Of two names in a row of segments the one with nothing but keys behind it is the last. -/
theorem exists_between_of_name {segments front before rest keys : List Segment}
    {first last : Segment} (split : segments = front ++ first :: rest)
    (split' : segments = before ++ last :: keys)
    (isKey : ∀ segment ∈ keys, segment.isName = false)
    (named : ∃ segment ∈ rest, segment.isName = true) :
    ∃ between, rest = between ++ last :: keys ∧ before = front ++ first :: between := by
  obtain ⟨segment, among, isName⟩ := named
  have notKey : segment ∉ keys := by
    intro isAmong
    rw [isKey segment isAmong] at isName
    cases isName
  rcases List.append_eq_append_iff.1 (split.symm.trans split') with
    ⟨between, whole, tail⟩ | ⟨between, -, tail⟩
  · cases between with
    | nil =>
      obtain ⟨-, rfl⟩ := List.cons.inj tail
      exact absurd among notKey
    | cons next between =>
      obtain ⟨rfl, rfl⟩ := List.cons.inj tail
      exact ⟨between, rfl, whole⟩
  · cases between with
    | nil =>
      obtain ⟨-, rfl⟩ := List.cons.inj tail
      exact absurd among notKey
    | cons next between =>
      obtain ⟨-, rfl⟩ := List.cons.inj tail
      exact absurd (List.mem_append_right _ (List.mem_cons_of_mem _ among)) notKey

section

variable {accessor : Accessor} {request : WriteRequest} {world middle after : World}
  {root : BeanRef} {before later : List Segment} {segment : Segment} {stage : Stage}
  {written : Written} {error : AccessError} {path : PropertyPath}

/-! ## Names that have been written -/

/-- What is written into by a key is no bean, and has to be put back. -/
theorem copy_of_writeStep {key : String} {quoted : Bool} {descend? : Option Descent}
    (wrote : (accessor.writeStep request before (.key key quoted) descend? stage.value
      stage.declared stage.owner).runOn middle = (.ok written, after)) :
    (∀ ref, stage.value.core ≠ .bean ref) ∧ ∃ copy, written.copy? = some copy := by
  unfold writeStep at wrote
  dsimp only at wrote
  split at wrote
  · next same => cases same
  · cases wrote
  · next core _ =>
    obtain ⟨_, _, -, wrote⟩ := Access.runOn_bind_eq_ok_iff.1 wrote
    obtain ⟨rfl, -⟩ : _ = written ∧ _ := by simpa using wrote
    exact ⟨by simp [core], _, rfl⟩
  · next core _ =>
    obtain ⟨_, _, -, wrote⟩ := Access.runOn_bind_eq_ok_iff.1 wrote
    obtain ⟨rfl, -⟩ : _ = written ∧ _ := by simpa using wrote
    exact ⟨by simp [core], _, rfl⟩
  · cases wrote

/-- A row that begins with a key is written into no bean, and what it is written into has to be put
back. -/
theorem copy_of_writeInto {key : String} {quoted : Bool}
    (wrote : (accessor.writeInto request before (.key key quoted) later stage.value stage.declared
      stage.owner).runOn middle = (.ok written, after)) :
    (∀ ref, stage.value.core ≠ .bean ref) ∧ ∃ copy, written.copy? = some copy := by
  cases later with
  | nil => exact copy_of_writeStep wrote
  | cons next later => exact copy_of_writeStep wrote

/-- A name that has been written as the end of the path is a property that can be written. -/
theorem isWritable_of_writeStep {label : String}
    (wrote : (accessor.writeStep request before (.name label) none stage.value stage.declared
      stage.owner).runOn middle = (.ok written, after)) :
    ∃ ref info, stage.value.core = .bean ref ∧
      accessor.capability? ref.type label = some (.property info) ∧ info.isWritable = true := by
  cases core : stage.value.core with
  | bean ref =>
    simp only [writeStep, core, writeLast] at wrote
    split at wrote
    · next info names =>
      split at wrote
      · next writable => exact ⟨ref, info, rfl, names, writable⟩
      · cases wrote
    · cases wrote
  | _ =>
    simp only [writeStep, core] at wrote
    cases wrote

/-- A property into which a copy has been put back can be written. -/
theorem isWritable_of_finishProperty {walked : List Segment} {ref : BeanRef} {info : PropertyInfo}
    {copy : Value} {finished : Written} (copies : written.copy? = some copy)
    (done : (finishProperty walked ref info written).runOn middle = (.ok finished, after)) :
    info.isWritable = true := by
  rw [finishProperty, copies] at done
  obtain ⟨_, _, puts, -⟩ := Access.runOn_bind_eq_ok_iff.1 done
  unfold putBack at puts
  split at puts
  · next writable => exact writable
  · cases puts

/-- Once a row of segments has been written, its last name is a property that can be written. By
induction on the segments; keys alone behind a name bring a copy back to it. -/
theorem isWritable_of_writeInto (later : List Segment) :
    ∀ (before : List Segment) (segment : Segment) (stage : Stage) (middle after : World)
      (written : Written) (between keys : List Segment) (label : String),
      accessor.DescendsTo request world root before stage middle →
      (accessor.writeInto request before segment later stage.value stage.declared
        stage.owner).runOn middle = (.ok written, after) →
      segment :: later = between ++ .name label :: keys →
      (∀ key ∈ keys, key.isName = false) →
      ∃ ref info, accessor.WrittenAt request world root (before ++ between) ref ∧
        accessor.capability? ref.type label = some (.property info) ∧ info.isWritable = true := by
  induction later with
  | nil =>
    intro before segment stage middle after written between keys label descends wrote split isKey
    obtain ⟨rfl, rfl, -⟩ : between = [] ∧ segment = .name label ∧ keys = [] := by
      cases between <;> simp_all
    obtain ⟨ref, info, core, names, writable⟩ := isWritable_of_writeStep wrote
    exact ⟨ref, info, ⟨stage, middle, by rwa [List.append_nil], core⟩, names, writable⟩
  | cons first rest ih =>
    intro before segment stage middle after written between keys label descends wrote split isKey
    rw [writeInto, writeStep_eq_advance] at wrote
    obtain ⟨next, reached, advanced, wrote⟩ := Access.runOn_bind_eq_ok_iff.1 wrote
    obtain ⟨inner, behind, wroteInner, finished⟩ := Access.runOn_bind_eq_ok_iff.1 wrote
    have further := DescendsTo.step before segment stage next middle reached descends advanced
    cases between with
    | cons head between =>
      obtain ⟨rfl, tail⟩ := List.cons.inj split
      have below := ih _ first next reached behind inner between keys label further wroteInner tail
        isKey
      rwa [List.append_assoc] at below
    | nil =>
      obtain ⟨rfl, rfl⟩ := List.cons.inj split
      cases first with
      | name other => exact absurd (isKey _ List.mem_cons_self) Bool.noConfusion
      | key key quoted =>
        obtain ⟨noBean, copy, copies⟩ := copy_of_writeInto wroteInner
        rw [List.append_nil]
        cases advances_of_advance advanced with
        | property _ ref info child _ core names =>
          exact ⟨ref, info, ⟨stage, middle, descends, core⟩, names,
            isWritable_of_finishProperty copies finished⟩
        | handle _ ref core names => exact absurd rfl (noBean _)

/-! ## The name that is refused -/

/-- Where a write fails because a name cannot be written, it is the last name that cannot be written
exactly if there is no further name behind. -/
theorem FailsAt.lacksLast_iff
    (fails : accessor.FailsAt request world root before segment later stage error)
    (unknown : error.isUnknownProperty = true)
    (split : path.segments = before ++ segment :: later) :
    accessor.LacksLast request world root path ↔ ∀ segment ∈ later, segment.isName = false := by
  obtain ⟨label, ref, rfl, core, sealed⟩ := fails.refused.unwritable unknown
  obtain ⟨middle, descends⟩ := fails.descends
  constructor
  · rintro ⟨front, last, keys, ref', split', isKey, there, lacks⟩
    by_contra further
    have named : ∃ segment ∈ later, segment.isName = true := by simpa using further
    obtain ⟨between, tail, rfl⟩ := exists_between_of_name split split' isKey named
    -- The write has come to the bean of the last name, so the name before it has been passed. It is
    -- refused on the way back only, when the last name has been written already.
    cases fails with
    | passing _ _ _ middle' after descends' _ failed =>
      obtain ⟨stage', reached, descendsLast, -⟩ := there
      obtain ⟨stage'', middle'', between', reached', descends'', advanced⟩ :=
        descendsLast.of_append rfl
      obtain ⟨rfl, rfl⟩ := descends'.unique descends''
      rw [failed] at advanced
      cases advanced
    | ending => simp at named
    | returning first rest _ next written _ middle' reached behind after descends' advanced wrote =>
      have further := DescendsTo.step before _ stage next middle' reached descends' advanced
      obtain ⟨ref'', info, there', names, writable⟩ :=
        isWritable_of_writeInto rest _ first next reached behind written between keys last further
          wrote tail isKey
      rw [List.append_assoc, List.singleton_append] at there'
      obtain rfl := there.unique there'
      rw [lacks info names] at writable
      cases writable
  · intro isKey
    exact ⟨before, label, later, ref, split, isKey, ⟨stage, middle, descends, core⟩, sealed⟩

/-! ## Batches -/

/-- The first value is tried, and then the others. -/
theorem run_applyEach_cons (options : BatchOptions) (root : BeanRef) (entry : PropertyValue)
    (rest : List PropertyValue) (world : World) :
    let tried := (accessor.applyOne options root entry).run world
    let others := (accessor.applyEach options root rest).run tried.2
    (accessor.applyEach options root (entry :: rest)).run world =
      (tried.1.toList ++ others.1, others.2) :=
  rfl

/-- Values are tried one row after the other. -/
theorem run_applyEach_append (options : BatchOptions) (root : BeanRef)
    (first rest : List PropertyValue) (world : World) :
    let tried := (accessor.applyEach options root first).run world
    let others := (accessor.applyEach options root rest).run tried.2
    (accessor.applyEach options root (first ++ rest)).run world =
      (tried.1 ++ others.1, others.2) := by
  intro tried others
  induction first generalizing world with
  | nil => rfl
  | cons entry first ih =>
    simp only [tried, others]
    rw [List.cons_append, run_applyEach_cons, ih, run_applyEach_cons]
    simp only [List.append_assoc]

/-- A value whose name is missing in the outcome has failed at its turn with an error that is left
out. -/
theorem exists_ignored_of_left_out {options : BatchOptions} {values : PropertyValues}
    {entry : PropertyValue} {before rest : List PropertyValue}
    (place : values.entries = before ++ entry :: rest)
    (leftOut : ∀ kept ∈ ((accessor.applyBatch options root values).run world).1.entries,
      kept.property ≠ entry.name) :
    ∃ error, ((accessor.setText root entry.name entry.value).runOn
        ((accessor.applyEach options root before).run world).2).1 = .error error ∧
      options.ignores error = true := by
  have entries : ((accessor.applyBatch options root values).run world).1.entries =
      ((accessor.applyEach options root values.entries).run world).1 := rfl
  rw [entries, place, run_applyEach_append, run_applyEach_cons,
    (accessor.run_applyOne options root entry _).1] at leftOut
  rcases result : ((accessor.setText root entry.name entry.value).runOn
      ((accessor.applyEach options root before).run world).2).1 with error | change
  · refine ⟨error, rfl, ?_⟩
    by_contra counts
    refine leftOut ⟨entry.name, entry.value, .error error⟩ ?_ rfl
    rw [result, kept?, BatchOptions.leavesOut, if_neg counts]
    exact List.mem_append_right _ List.mem_cons_self
  · refine absurd rfl (leftOut ⟨entry.name, entry.value, .ok change⟩ ?_)
    rw [result]
    exact List.mem_append_right _ List.mem_cons_self

/-- Only unknown properties are ignored by a batch that ignores nothing else. -/
theorem isUnknownProperty_of_ignores {error : AccessError}
    (ignored : BatchOptions.ignores { ignoreUnknown := true } error = true) :
    error.isUnknownProperty = true := by
  simpa [BatchOptions.ignores] using ignored

end

/-- A value that a batch leaves out because it ignores unknown properties has failed, in the graph
at its turn, for a name that is looked up on a bean and cannot be written there, and the error names
the path up to it. That name is the last of the path exactly if only keys are behind it. -/
theorem lacksLast_iff_of_left_out (accessor : Accessor) (root : BeanRef) (values : PropertyValues)
    (world : World) (before : List PropertyValue) (entry : PropertyValue)
    (rest : List PropertyValue) (place : values.entries = before ++ entry :: rest)
    (leftOut : ∀ kept ∈ ((accessor.applyBatch { ignoreUnknown := true } root values).run
      world).1.entries, kept.property ≠ entry.name) :
    let turn := ((accessor.applyEach { ignoreUnknown := true } root before).run world).2
    let request : WriteRequest := ⟨entry.value, accessor.options⟩
    ∃ path error oldValue? start front label later ref,
      PropertyPath.parse entry.name = .ok path ∧
      ((accessor.setText root entry.name entry.value).runOn turn).1 = .error error ∧
      (accessor.oldValue accessor.options root path).runOn turn = (.ok oldValue?, start) ∧
      path.segments = front ++ .name label :: later ∧
      error.property? = some (Segment.render (front ++ [.name label])) ∧
      accessor.WrittenAt request start root front ref ∧
      (∀ info, accessor.capability? ref.type label = some (.property info) →
        info.isWritable = false) ∧
      (accessor.LacksLast request start root path ↔
        ∀ segment ∈ later, segment.isName = false) := by
  intro turn request
  obtain ⟨error, failed, ignored⟩ := exists_ignored_of_left_out place leftOut
  have unknown := isUnknownProperty_of_ignores ignored
  cases parsed : PropertyPath.parse entry.name with
  | error cause =>
    rw [setText, parsePath, parsed] at failed
    obtain rfl : AccessError.malformedPath cause = error := Except.error.inj failed
    cases unknown
  | ok path =>
    rw [setText, parsePath_of_parse parsed, pure_bind] at failed
    obtain ⟨oldValue?, start, front, last, later, stage, read, split, fails⟩ :=
      exists_failsAt_of_setWith (Prod.ext failed rfl)
    obtain ⟨label, ref, rfl, core, sealed⟩ := fails.refused.unwritable unknown
    have told := error.owner?_ne_none_of_isUnknownProperty unknown
    obtain ⟨middle, descends⟩ := fails.descends
    exact ⟨path, error, oldValue?, start, front, label, later, ref, rfl,
      by rw [setText, parsePath_of_parse parsed, pure_bind]; exact failed, read, split,
      (fails.refused.tells told).property, ⟨stage, middle, descends, core⟩, sealed,
      fails.lacksLast_iff unknown split⟩

open Household in
/-- The friends of a person can be read but not written. A batch leaves out a new first friend of
Eve, since the list of friends cannot be put back. -/
theorem lacksLast_iff_of_friend :
    let reader := accessor.reading person "friends"
    let values := PropertyValues.ofPairs [("name", .text "Eva"), ("friends[0]", .bean eve)]
    values.entries = [⟨"name", .text "Eva"⟩] ++ ⟨"friends[0]", .bean eve⟩ :: [] ∧
      (∀ kept ∈ ((reader.applyBatch { ignoreUnknown := true } eve values).run
        (world [])).1.entries, kept.property ≠ "friends[0]") ∧
      let turn := ((reader.applyEach { ignoreUnknown := true } eve
        [⟨"name", .text "Eva"⟩]).run (world [])).2
      let request : WriteRequest := ⟨.bean eve, reader.options⟩
      ∃ path error oldValue? start front label later ref,
        PropertyPath.parse "friends[0]" = .ok path ∧
        ((reader.setText eve "friends[0]" (.bean eve)).runOn turn).1 = .error error ∧
        (reader.oldValue reader.options eve path).runOn turn = (.ok oldValue?, start) ∧
        path.segments = front ++ .name label :: later ∧
        error.property? = some (Segment.render (front ++ [.name label])) ∧
        reader.WrittenAt request start eve front ref ∧
        (∀ info, reader.capability? ref.type label = some (.property info) →
          info.isWritable = false) ∧
        (reader.LacksLast request start eve path ↔
          ∀ segment ∈ later, segment.isName = false) := by
  intro reader values
  have leftOut : ∀ kept ∈ ((reader.applyBatch { ignoreUnknown := true } eve values).run
      (world [])).1.entries, kept.property ≠ "friends[0]" := by
    have names : ((reader.applyBatch { ignoreUnknown := true } eve values).run
        (world [])).1.entries.map (·.property) = ["name"] := by decide +kernel
    intro kept among same
    have property := List.mem_map_of_mem among (f := (·.property))
    rw [names, same] at property
    revert property
    decide
  exact ⟨rfl, leftOut, lacksLast_iff_of_left_out reader eve values (world [])
    [⟨"name", .text "Eva"⟩] ⟨"friends[0]", .bean eve⟩ [] rfl leftOut⟩

open Household in
/-- The owner of a pet can be read but not written, and values on the way are made. A batch leaves
out the name of Tom's owner, although it is the owner that cannot be written and not the name. -/
theorem left_out_name_of_owner :
    let grower := { accessor.reading pet "owner" with options := { growNested := true } }
    let path : PropertyPath := ⟨.name "owner", [.name "name"]⟩
    let values := PropertyValues.ofPairs [("owner.name", .text "Ida")]
    PropertyPath.parse "owner.name" = .ok path ∧ values.names = ["owner.name"] ∧
      ((grower.applyBatch { ignoreUnknown := true } tom values).run
        (world [])).1.entries.length = 0 ∧
      ¬ grower.LacksLast ⟨.text "Ida", grower.options⟩ (world []) tom path := by
  intro grower path values
  refine ⟨by decide +kernel, by decide +kernel, by decide +kernel, ?_⟩
  rintro ⟨front, label, keys, ref, split, isKey, ⟨stage, after, descends, -⟩, -⟩
  have whole : path.segments = [] ++ .name "owner" :: [.name "name"] := rfl
  obtain ⟨between, -, rfl⟩ := exists_between_of_name whole split isKey ⟨_, List.mem_cons_self, rfl⟩
  obtain ⟨stage', middle, next, reached, atRoot, advanced⟩ := descends.of_append rfl
  obtain ⟨rfl, rfl⟩ := atRoot.unique .root
  have stopped : ∃ error last, (grower.advance ⟨.text "Ida", grower.options⟩ [] (.name "owner")
      (.root tom)).runOn (world []) = (.error error, last) := ⟨_, _, rfl⟩
  obtain ⟨error, last, stopped⟩ := stopped
  rw [stopped] at advanced
  cases advanced

end Accessor

end PropertyGraph
