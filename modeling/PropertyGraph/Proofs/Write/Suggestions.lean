import PropertyGraph.Proofs.Name.Suggestion
import PropertyGraph.Proofs.Path.Front
import PropertyGraph.Proofs.Write.Aliases
import PropertyGraph.Proofs.Write.Stops

/-!
# Suggestions of a failed write

Where a write fails at the name that ends its path, every name that it suggests can be written in
its place, and no near one is left out unless there are as many suggestions as are given at most.
The candidates are looked up in the registry while the failing name was looked up by the accessor,
which asks the policy first on type handles. Nothing of a type handle can be written, so that the
two agree on every name that counts.
-/
namespace PropertyGraph

/-- The name is a property of the type, or an alias of one, that can be written. -/
def Registry.Writes (registry : Registry) (owner : TypeRef) (name : String) : Prop :=
  ∃ info, registry.describe? owner name = some info ∧ info.isWritable = true

/-- Type handles have the properties that they come with. Further names may stand for these. -/
def Registry.KeepsHandles (registry : Registry) : Prop :=
  ∀ table, registry.get? TypeHandle.type = some table → table.slots = TypeHandle.typeMeta.slots

/-- Nothing of a type handle can be written. -/
theorem Registry.KeepsHandles.not_writes {registry : Registry} (keeps : registry.KeepsHandles)
    (name : String) : ¬ registry.Writes TypeHandle.type name := by
  have sealed : ∀ entry ∈ TypeHandle.typeMeta.slots, entry.2.isWritable = false := by decide
  rintro ⟨info, described, writable⟩
  obtain ⟨table, found, resolved⟩ := Option.bind_eq_some_iff.1 described
  obtain ⟨key, direct⟩ : ∃ key, table.slots.lookup key = some info := by
    rcases Option.or_eq_some_iff.1 resolved with direct | ⟨-, aliased⟩
    · exact ⟨name, direct⟩
    · obtain ⟨target, -, direct⟩ := Option.bind_eq_some_iff.1 aliased
      exact ⟨target, direct⟩
  rw [keeps table found] at direct
  obtain ⟨before, behind, split, -⟩ := List.lookup_eq_some_iff.1 direct
  simp [sealed (key, info) (split ▸ by simp)] at writable

namespace Accessor

variable {accessor : Accessor} {owner : TypeRef} {name other : String}

/-- The name leads to a property of the type that can be written. -/
def Writes (accessor : Accessor) (owner : TypeRef) (name : String) : Prop :=
  ∃ info, accessor.capability? owner name = some (.property info) ∧ info.isWritable = true

/-- The accessor and its registry know the same names that can be written. -/
theorem writes_iff (keeps : accessor.registry.KeepsHandles) :
    accessor.Writes owner name ↔ accessor.registry.Writes owner name := by
  constructor
  · rintro ⟨info, names, writable⟩
    exact ⟨info, describe?_of_capability? names, writable⟩
  · rintro ⟨info, described, writable⟩
    have isPlain : owner ≠ TypeHandle.type := by
      rintro rfl
      exact keeps.not_writes name ⟨info, described, writable⟩
    refine ⟨info, ?_, writable⟩
    rw [capability?, if_neg fun denied => isPlain denied.1, described]

/-- What the suggestions for a name of a type are good for. -/
structure SuggestsFor (accessor : Accessor) (owner : TypeRef) (name : String)
    (suggestions : List String) : Prop where
  /-- No name is suggested twice. -/
  nodup : suggestions.Nodup
  /-- There are no more suggestions than are given at most. -/
  length_le : suggestions.length ≤ accessor.suggestions.maxSuggestions
  /-- The name itself is not suggested. -/
  not_mem : name ∉ suggestions
  /-- What is suggested leads to a property that can be written. -/
  writes : ∀ other ∈ suggestions, accessor.Writes owner other
  /-- What is suggested is close to the name. -/
  near : ∀ other ∈ suggestions, nameDistance name other ≤ accessor.suggestions.maxDistance
  /-- If fewer names are suggested, they are all of the near ones that can be written. -/
  complete : suggestions.length < accessor.suggestions.maxSuggestions →
    ∀ other ∈ accessor.registry.propertyNames owner ++ accessor.registry.aliasNames owner,
      accessor.registry.Writes owner other →
      nameDistance name other ≤ accessor.suggestions.maxDistance → other ∈ suggestions

/-- The writable names of a type are those of its names and aliases that can be written. -/
theorem mem_writableNames : other ∈ accessor.writableNames owner ↔
    other ∈ accessor.registry.propertyNames owner ++ accessor.registry.aliasNames owner ∧
      accessor.registry.Writes owner other := by
  rw [writableNames, List.mem_filter, Registry.Writes]
  refine and_congr_right fun _ => ?_
  cases accessor.registry.describe? owner other <;> simp

/-- What is suggested for a name that cannot be written. -/
theorem suggestsFor_suggest (keeps : accessor.registry.KeepsHandles)
    (hidden : ¬ accessor.Writes owner name) :
    accessor.SuggestsFor owner name (accessor.suggest owner name) := by
  obtain ⟨ranked, ranks, suggests⟩ :=
    accessor.suggestions.exists_ranks_suggest name (accessor.writableNames owner)
  have among (other : String) (suggested : other ∈ accessor.suggest owner name) :
      accessor.Writes owner other ∧ nameDistance name other ≤ accessor.suggestions.maxDistance := by
    rw [suggest, suggests] at suggested
    obtain ⟨candidate, near⟩ := (ranks.mem_iff other).1 (List.mem_of_mem_take suggested)
    exact ⟨(writes_iff keeps).2 (mem_writableNames.1 candidate).2, near⟩
  constructor
  case nodup =>
    rw [suggest, suggests]
    exact ranks.nodup.sublist (List.take_sublist _ _)
  case length_le =>
    rw [suggest, suggests]
    exact List.length_take_le _ _
  case not_mem => exact fun suggested => hidden (among name suggested).1
  case writes => exact fun other suggested => (among other suggested).1
  case near => exact fun other suggested => (among other suggested).2
  case complete =>
    intro fewer other candidate writes near
    rw [suggest, suggests] at fewer ⊢
    have whole : ranked.length ≤ accessor.suggestions.maxSuggestions := by
      rw [List.length_take] at fewer
      omega
    rw [List.take_of_length_le whole]
    exact (ranks.mem_iff other).2 ⟨mem_writableNames.2 ⟨candidate, writes⟩, near⟩

/-! ## Where suggestions are made -/

/-- A name that ends a path fails with suggestions for it, if it fails as one that cannot be
written. -/
theorem writeLast_failsAs (request : WriteRequest) (walked : List Segment) (ref : BeanRef) :
    Access.FailsAs (fun error => error.isUnknownProperty = true →
        error = accessor.notWritable walked ref.type name)
      (accessor.writeLast request walked ref name) := by
  unfold writeLast
  split
  · next info _ =>
    split
    · refine .bind ((convertRaw_failsAs _ _ _).mono fun error tells unknown => ?_) fun value =>
        .bind (.invoke fun cause unknown => by cases unknown) fun _ => .pure _
      rw [tells.2] at unknown
      cases unknown
    · exact .throw fun _ => rfl
  · exact .throw fun _ => rfl

/-- A write that fails at the end of its path, because nothing there can be written, has come to a
bean of the type that the error tells of, on which the last segment is a name that cannot be
written. The names that are suggested in its place are distinct, as many as are given at most, and
other ones; they lead to properties that can be written, and they are close to the name. If there
are fewer than are given at most, no near name of a property that can be written is missing. -/
theorem suggestsFor_of_setWith (keeps : accessor.registry.KeepsHandles) {options : AccessOptions}
    {root : BeanRef} {path : PropertyPath} {raw : Value} {world after : World}
    {suggestions : List String}
    (failed : (accessor.setWith options root path raw).runOn world =
      (.error (.notWritable path.text owner suggestions), after)) :
    ∃ oldValue? start before label ref,
      (accessor.oldValue options root path).runOn world = (.ok oldValue?, start) ∧
      path.segments = before ++ [.name label] ∧
      accessor.WrittenAt ⟨raw, options⟩ start root before ref ∧ ref.type = owner ∧
      accessor.SuggestsFor owner label suggestions := by
  obtain ⟨oldValue?, start, before, segment, rest, stage, read, split, fails⟩ :=
    exists_failsAt_of_setWith failed
  have tells := fails.refused.tells (by simp [AccessError.owner?])
  obtain rfl : rest = [] := by
    have property : path.text = Segment.render (before ++ [segment]) :=
      Option.some.inj tells.property
    rw [PropertyPath.text, split, List.append_cons] at property
    exact Segment.eq_nil_of_render_append (by simp) property
  obtain ⟨label, ref, rfl, core, hidden⟩ := fails.refused.unwritable rfl
  obtain rfl : owner = ref.type :=
    (Option.some.inj tells.owner).trans (Stage.blamed_of_bean core)
  cases fails with
  | passing _ _ _ _ _ _ more => exact absurd rfl more
  | ending _ _ middle behind descends ends =>
    refine ⟨oldValue?, start, before, label, ref, read, split, ⟨stage, middle, descends, core⟩,
      rfl, ?_⟩
    have ends : (accessor.writeLast ⟨raw, options⟩ (before ++ [.name label]) ref label).runOn
        middle = (.error (.notWritable path.text ref.type suggestions), behind) := by
      simpa [writeStep, core] using ends
    have told := writeLast_failsAs _ _ ref middle _ behind ends rfl
    obtain rfl : suggestions = accessor.suggest ref.type label := by
      injection told
    refine suggestsFor_suggest keeps ?_
    rintro ⟨info, names, writable⟩
    rw [hidden info names] at writable
    cases writable

open Household in
/-- Eve has a friend, who has no "pal", but "pals" stands for "friends". -/
theorem setWith_pal :
    let path : PropertyPath := ⟨.name "friends", [.key "0" false, .name "pal"]⟩
    ∃ after, withPals.registry.KeepsHandles ∧
      (withPals.setWith {} eve path (.text "Ida")).runOn (world []) =
        (.error (.notWritable path.text person ["pals"]), after) ∧
      withPals.SuggestsFor person "pal" ["pals"] := by
  intro path
  have keeps : withPals.registry.KeepsHandles := fun table found => Option.some.inj found ▸ rfl
  have near : withPals.suggestions.nearMatches "pal" (withPals.writableNames person) =
      [(1, "pals")] := by decide +kernel
  have suggests : withPals.suggest person "pal" = ["pals"] := by
    rw [suggest, SuggestionEngine.suggest, near, List.mergeSort_singleton]
    rfl
  have failed : ∃ after, (withPals.setWith {} eve path (.text "Ida")).runOn (world []) =
      (.error (.notWritable path.text person (withPals.suggest person "pal")), after) := ⟨_, rfl⟩
  rw [suggests] at failed
  obtain ⟨after, failed⟩ := failed
  obtain ⟨_, _, before, label, ref, -, split, -, -, suggestsFor⟩ :=
    suggestsFor_of_setWith keeps failed
  have ends : [.name "friends", .key "0" false] ++ [.name "pal"] = before ++ [.name label] := split
  obtain ⟨-, same⟩ := List.append_inj' ends rfl
  obtain rfl : "pal" = label := by simpa using same
  exact ⟨after, keeps, failed, suggestsFor⟩

end Accessor

end PropertyGraph
