import PropertyGraph.Proofs.Read.Declared
import PropertyGraph.Proofs.Write.Stops

/-!
# The owner that an error tells of

A failed access names a front of its path and a bean type. The type is to be that of the bean on
which the last name of the front has been looked up, whatever the access does. Reads and
descriptions keep to that. So does a write, but for a key that is met by a bean: there it tells of
the type of that bean, although no name has been looked up on it. A read and a write that fail at
one front therefore tell of one owner, unless that happens.
-/
namespace PropertyGraph

/-- What is no name is a key. -/
theorem Segment.isName_eq_false {segment : Segment} (noName : ∀ label, segment ≠ .name label) :
    segment.isName = false := by
  cases segment with
  | name label => exact absurd rfl (noName label)
  | key key quoted => rfl

/-- The owner of what stands at the end of a row of segments, where it is told which bean has been
come to behind which row: the type of the bean on which the last name has been looked up that was
looked up on a bean at all, and the type of the root if there is none. -/
inductive Owns (resolvedOn : List Segment → BeanRef → Prop) (root : BeanRef) :
    List Segment → TypeRef → Prop
  /-- Nothing has been looked up. -/
  | root : Owns resolvedOn root [] root.type
  /-- A name has been looked up on a bean. -/
  | name (before : List Segment) (label : String) (ref : BeanRef) : resolvedOn before ref →
    Owns resolvedOn root (before ++ [.name label]) ref.type
  /-- A key, or a name where there is no bean, leaves the owner. -/
  | onward (before : List Segment) (segment : Segment) (owner : TypeRef) :
    Owns resolvedOn root before owner →
    (∀ ref, resolvedOn before ref → segment.isName = false) →
    Owns resolvedOn root (before ++ [segment]) owner

namespace Owns

variable {resolvedOn resolvedOn' : List Segment → BeanRef → Prop} {root : BeanRef}
  {before segments : List Segment} {segment : Segment} {owner owner' : TypeRef}

/-- The owner at the end of a row comes from the last segment, or from those before it. -/
theorem of_concat (owns : Owns resolvedOn root (before ++ [segment]) owner) :
    (∃ ref, segment.isName = true ∧ resolvedOn before ref ∧ owner = ref.type) ∨
      Owns resolvedOn root before owner ∧
        ∀ ref, resolvedOn before ref → segment.isName = false := by
  generalize whole : before ++ [segment] = segments at owns
  cases owns with
  | root => simp at whole
  | name before' label ref resolved =>
    obtain ⟨rfl, same⟩ := List.append_inj' whole rfl
    obtain rfl : segment = .name label := by simpa using same
    exact .inl ⟨ref, rfl, resolved, rfl⟩
  | onward before' segment' _ owns keeps =>
    obtain ⟨rfl, same⟩ := List.append_inj' whole rfl
    obtain rfl : segment = segment' := by simpa using same
    exact .inr ⟨owns, keeps⟩

/-- There is one owner, if at most one bean has been come to behind each row. -/
theorem unique (functional : ∀ before ref ref', resolvedOn before ref → resolvedOn before ref' →
      ref = ref')
    (owns : Owns resolvedOn root segments owner) (owns' : Owns resolvedOn root segments owner') :
    owner = owner' := by
  induction owns generalizing owner' with
  | root =>
    generalize none : ([] : List Segment) = segments at owns'
    cases owns' with
    | root => rfl
    | name => simp at none
    | onward => simp at none
  | name before label ref resolved =>
    rcases owns'.of_concat with ⟨ref', -, resolved', rfl⟩ | ⟨-, keeps⟩
    · rw [functional before ref ref' resolved resolved']
    · exact absurd (keeps ref resolved) Bool.noConfusion
  | onward before segment owner owns keeps ih =>
    rcases owns'.of_concat with ⟨ref', isName, resolved', -⟩ | ⟨owns', -⟩
    · rw [keeps ref' resolved'] at isName
      cases isName
    · exact ih owns'

/-- Behind a key the owner is the same. -/
theorem key_iff (isKey : segment.isName = false) :
    Owns resolvedOn root (before ++ [segment]) owner ↔ Owns resolvedOn root before owner := by
  constructor
  · intro owns
    rcases owns.of_concat with ⟨ref, isName, -, -⟩ | ⟨owns, -⟩
    · rw [isKey] at isName
      cases isName
    · exact owns
  · exact fun owns => .onward before segment owner owns fun _ _ => isKey

/-- Where the same beans have been come to on the way, the owner is the same. -/
theorem congr (same : ∀ before segment later ref, segments = before ++ segment :: later →
      (resolvedOn before ref ↔ resolvedOn' before ref))
    (owns : Owns resolvedOn root segments owner) : Owns resolvedOn' root segments owner := by
  induction owns with
  | root => exact .root
  | name before label ref resolved =>
    exact .name before label ref ((same before _ [] ref rfl).1 resolved)
  | onward before segment owner owns keeps ih =>
    have shorter : ∀ front next later ref, before = front ++ next :: later →
        (resolvedOn front ref ↔ resolvedOn' front ref) := by
      intro front next later ref split
      exact same front next (later ++ [segment]) ref (by simp [split])
    have keeps' : ∀ ref, resolvedOn' before ref → segment.isName = false :=
      fun ref resolved => keeps ref ((same before segment [] ref rfl).2 resolved)
    exact .onward before segment owner (ih shorter) keeps'

/-- The owner of a row depends only on what its proper fronts have been resolved on. -/
theorem congr_iff (same : ∀ before segment later ref, segments = before ++ segment :: later →
      (resolvedOn before ref ↔ resolvedOn' before ref)) :
    Owns resolvedOn root segments owner ↔ Owns resolvedOn' root segments owner :=
  ⟨congr same, congr fun before segment later ref split =>
    (same before segment later ref split).symm⟩

end Owns

/-- The error tells of a row of segments and of the owner at its end. -/
def AccessError.TellsOwner (resolvedOn : List Segment → BeanRef → Prop) (root : BeanRef)
    (segments : List Segment) (error : AccessError) : Prop :=
  ∃ owner, error.Tells segments owner ∧ Owns resolvedOn root segments owner

namespace Accessor

open Access (FailsAs)

section

variable {accessor : Accessor} {request : WriteRequest} {world start middle after : World}
  {root ref : BeanRef} {before later segments : List Segment} {segment : Segment}
  {cursor next : Cursor} {stage : Stage} {error : AccessError} {path : PropertyPath}

/-! ## Reads -/

/-- A key, or a name where there is no bean, leaves the owner of a read. -/
theorem ComesTo.keeps (comes : accessor.ComesTo world root before cursor middle)
    (notNamed : ∀ ref, cursor.value.unwrapped = .bean ref → segment.isName = false)
    (resolved : accessor.ReadAt world root before ref) : segment.isName = false := by
  obtain ⟨cursor', middle', comes', isBean⟩ := resolved
  obtain ⟨rfl, rfl⟩ := comes.unique comes'
  exact notNamed ref isBean

/-- What a read has come to belongs to the owner that the cursor tells of. -/
theorem ComesTo.owns (comes : accessor.ComesTo world root segments cursor after) :
    Owns (accessor.ReadAt world root) root segments cursor.owner := by
  induction comes with
  | root => exact .root
  | step before segment cursor next middle after comes _ stepped ih =>
    cases takes_of_step stepped with
    | property ref label info value _ isBean =>
      exact .name before label ref ⟨cursor, middle, comes, isBean⟩
    | handle ref label isBean => exact .name before label ref ⟨cursor, middle, comes, isBean⟩
    | item => exact .onward before _ _ ih fun _ _ => rfl
    | entry => exact .onward before _ _ ih fun _ _ => rfl

/-- A name that cannot be read on a bean fails with the type of that bean. -/
theorem readName_failsAs (walked : List Segment) (ref : BeanRef) (label : String) :
    FailsAs (AccessError.Tells walked ref.type) (accessor.readName walked ref label) := by
  unfold readName
  split
  · split
    · exact .bind (.invoke fun cause => ⟨rfl, rfl⟩) fun value => .pure _
    · exact .throw ⟨rfl, rfl⟩
  · exact .bind (.ofWorld _) fun handle => .pure _
  · exact .throw ⟨rfl, rfl⟩

/-- The error of a segment that is not looked up tells of the owner of what is there. -/
theorem ComesTo.tellsOwner_of_tells (comes : accessor.ComesTo world root before cursor middle)
    (notNamed : ∀ ref, cursor.value.unwrapped = .bean ref → segment.isName = false)
    {error : AccessError} (tells : error.Tells (before ++ [segment]) cursor.owner) :
    error.TellsOwner (accessor.ReadAt world root) root (before ++ [segment]) :=
  ⟨cursor.owner, tells, .onward before segment _ comes.owns fun _ => comes.keeps notNamed⟩

/-- The error of a name that is looked up on a bean tells of the type of the bean. -/
theorem ComesTo.tellsOwner_of_name (comes : accessor.ComesTo world root before cursor middle)
    (isBean : cursor.value.unwrapped = .bean ref) {label : String} {error : AccessError}
    (tells : error.Tells (before ++ [.name label]) ref.type) :
    error.TellsOwner (accessor.ReadAt world root) root (before ++ [.name label]) :=
  ⟨ref.type, tells, .name before label ref ⟨cursor, middle, comes, isBean⟩⟩

/-- A step that is refused tells of the owner. -/
theorem ComesTo.step_failsAs (comes : accessor.ComesTo world root before cursor middle)
    (segment : Segment) :
    FailsAs (AccessError.TellsOwner (accessor.ReadAt world root) root (before ++ [segment]))
      (accessor.step cursor before segment) := by
  unfold Accessor.step
  dsimp only
  split
  · next ref label isBean =>
    exact (readName_failsAs _ ref label).mono fun error => comes.tellsOwner_of_name isBean
  · next items key quoted _ =>
    have tells (error : AccessError) : error.Tells (before ++ [.key key quoted]) cursor.owner → _ :=
      comes.tellsOwner_of_tells fun _ _ => rfl
    refine .bind ((listIndex_failsAs _ cursor.owner key).mono fun error bars =>
      tells error bars.1) fun index => ?_
    split
    · exact .pure _
    · exact .throw (tells _ ⟨rfl, rfl⟩)
  · exact .pure _
  · next noName _ _ =>
    exact .throw (comes.tellsOwner_of_tells (fun ref isBean =>
      Segment.isName_eq_false fun label => noName ref label isBean) ⟨rfl, rfl⟩)

/-- A description that is refused tells of the owner. -/
theorem ComesTo.describeStep_failsAs (comes : accessor.ComesTo world root before cursor middle)
    (segment : Segment) :
    FailsAs (AccessError.TellsOwner (accessor.ReadAt world root) root (before ++ [segment]))
      (accessor.describeStep cursor before segment) := by
  unfold Accessor.describeStep
  dsimp only
  split
  · next ref label isBean =>
    split
    · exact .pure _
    · exact .bind (.bind (.ofWorld _) fun _ => .pure _) fun handle => .pure _
    · exact .throw (comes.tellsOwner_of_name isBean ⟨rfl, rfl⟩)
  · next items key quoted _ =>
    exact .bind ((listIndex_failsAs _ cursor.owner key).mono fun error bars =>
      comes.tellsOwner_of_tells (fun _ _ => rfl) bars.1) fun index => .pure _
  · exact .pure _
  · next noName _ _ =>
    exact .throw (comes.tellsOwner_of_tells (fun ref isBean =>
      Segment.isName_eq_false fun label => noName ref label isBean) ⟨rfl, rfl⟩)

/-- A read that stops tells of the owner. -/
theorem StopsAt.tellsOwner
    (stops : accessor.StopsAt world root before segment later error after) :
    error.TellsOwner (accessor.ReadAt world root) root (before ++ [segment]) := by
  cases stops with
  | refused cursor middle _ _ comes _ refused =>
    exact comes.step_failsAs segment middle error after refused
  | absent cursor next middle _ comes present stepped _ _ =>
    exact ⟨next.owner, ⟨rfl, rfl⟩,
      (ComesTo.step before segment cursor next middle after comes present stepped).owns⟩

/-! ## Writes -/

/-- What a write has come to belongs to the owner that the stage tells of. -/
theorem DescendsTo.owns (descends : accessor.DescendsTo request world root segments stage after) :
    Owns (accessor.WrittenAt request world root) root segments stage.owner := by
  induction descends with
  | root => exact .root
  | step before segment stage next middle after descends advanced ih =>
    cases advances_of_advance advanced with
    | property label ref info child _ core =>
      exact .name before label ref ⟨stage, middle, descends, core⟩
    | handle label ref core => exact .name before label ref ⟨stage, middle, descends, core⟩
    | slot => exact .onward before _ _ ih fun _ _ => rfl

/-- A key at the end of a row is met by no bean, or by one of the type that owns the slot. -/
def KeyMeetsOwner (accessor : Accessor) (request : WriteRequest) (world : World) (root : BeanRef)
    (segments : List Segment) : Prop :=
  ∀ before key quoted ref, segments = before ++ [.key key quoted] →
    accessor.WrittenAt request world root before ref →
    Owns (accessor.WrittenAt request world root) root before ref.type

/-- Where a write has come to no bean, the owner is that of the slot. -/
theorem DescendsTo.owns_onward
    (descends : accessor.DescendsTo request world root before stage middle)
    (noBean : ∀ ref, stage.value.core ≠ .bean ref) (segment : Segment) :
    Owns (accessor.WrittenAt request world root) root (before ++ [segment]) stage.owner := by
  refine .onward before segment stage.owner descends.owns ?_
  rintro ref ⟨stage', middle', descends', core⟩
  obtain ⟨rfl, rfl⟩ := descends.unique descends'
  exact absurd core (noBean ref)

/-- Where a write fails at a name, it tells of the owner; where it fails at a key, it does so unless
the key is met by a bean that is not of the owner's type. -/
theorem FailsAt.owns_iff
    (fails : accessor.FailsAt request world root before segment later stage error) {owner : TypeRef}
    (told : error.owner? = some owner) :
    error.property? = some (Segment.render (before ++ [segment])) ∧
      (Owns (accessor.WrittenAt request world root) root (before ++ [segment]) owner ↔
        accessor.KeyMeetsOwner request world root (before ++ [segment])) := by
  have tells := fails.refused.tells (by simp [told])
  obtain rfl : stage.blamed = owner := Option.some.inj (tells.owner.symm.trans told)
  obtain ⟨middle, descends⟩ := fails.descends
  refine ⟨tells.property, ?_⟩
  rcases stage.value.core.not_bean_or_bean with noBean | ⟨ref, core⟩
  · rw [Stage.blamed_of_not_bean noBean]
    refine iff_of_true (descends.owns_onward noBean segment) ?_
    rintro before' key quoted ref whole ⟨stage', middle', descends', core⟩
    obtain ⟨rfl, -⟩ := List.append_inj' whole rfl
    obtain ⟨rfl, rfl⟩ := descends.unique descends'
    exact absurd core (noBean ref)
  · have here : accessor.WrittenAt request world root before ref := ⟨stage, middle, descends, core⟩
    rw [Stage.blamed_of_bean core]
    cases segment with
    | name label =>
      refine iff_of_true (.name before label ref here) ?_
      intro before' key quoted ref' whole
      simpa using (List.append_inj' whole rfl).2
    | key key quoted =>
      rw [Owns.key_iff rfl]
      constructor
      · intro owns before' key' quoted' ref' whole there
        obtain ⟨rfl, -⟩ := List.append_inj' whole rfl
        rwa [← here.unique there]
      · exact fun meets => meets before key quoted ref rfl here

/-! ## A read and a write -/

/-- What is read step by step is come to by a write in the same world, if it is present. -/
theorem ComesTo.descendsTo (request : WriteRequest)
    (comes : accessor.ComesTo world root segments cursor after)
    (present : cursor.value.isAbsent = false) :
    ∃ finish, accessor.DescendsTo request world root segments
      ⟨cursor.value, cursor.declared, cursor.owner, finish⟩ after := by
  induction comes with
  | root => exact ⟨pure, .root⟩
  | step before segment cursor next middle after comes presentBefore stepped ih =>
    obtain ⟨finish, descends⟩ := ih presentBefore
    suffices advanced : ∃ finish', (accessor.advance request before segment
        ⟨cursor.value, cursor.declared, cursor.owner, finish⟩).runOn middle =
          (.ok ⟨next.value, next.declared, next.owner, finish'⟩, after) by
      obtain ⟨finish', advanced⟩ := advanced
      exact ⟨finish', .step before segment _ _ middle after descends advanced⟩
    cases takes_of_step stepped with
    | property ref label info value _ isBean names readable read =>
      have core := Value.core_eq_of_unwrapped isBean (by simp)
      have entered : (accessor.enter request (before ++ [.name label]) ref info).runOn middle =
          (.ok value, after) := by
        have given : (Access.invoke (before ++ [.name label]) ref (·.read ref info)).runOn middle =
            (.ok value, after) := by simp [read]
        exact runOn_enter_of_read given present
      simp only [advance, core, names, readable, ↓reduceIte]
      exact ⟨_, Access.runOn_bind_of_ok entered _⟩
    | handle ref label isBean names =>
      have core := Value.core_eq_of_unwrapped isBean (by simp)
      simp only [advance, core, names]
      exact ⟨_, Access.runOn_bind_of_ok (runOn_handleCursor _ _) _⟩
    | item items key quoted index value isList isIndex found =>
      have core := Value.core_eq_of_unwrapped isList (by simp)
      have inside : index < items.length := (List.getElem?_eq_some_iff.1 found).1
      change value.isAbsent = false at present
      simp only [advance, core, listIndex, isIndex, pure_bind, extendTo, inside, ↓reduceIte, found,
        Option.getD_some, enterSlot, present, Bool.false_eq_true]
      exact ⟨_, rfl⟩
    | entry entries key quoted isMap =>
      have core := Value.core_eq_of_unwrapped isMap (by simp)
      change ((Entries.find? key entries).getD .null).isAbsent = false at present
      simp only [advance, core, enterSlot, present, Bool.false_eq_true, ↓reduceIte, pure_bind]
      exact ⟨_, rfl⟩

/-- Up to what is present, a read and a write in the same world come to the same beans. -/
theorem ComesTo.readAt_iff_writtenAt (request : WriteRequest)
    (comes : accessor.ComesTo world root before cursor middle)
    (present : cursor.value.isAbsent = false) (split : before = segments ++ later) :
    accessor.ReadAt world root segments ref ↔
      accessor.WrittenAt request world root segments ref := by
  obtain ⟨between, reached, comesBetween, presentBetween⟩ := comes.of_append split
  have there : between.value.isAbsent = false := by
    cases later with
    | nil =>
      rw [List.append_nil] at split
      obtain ⟨rfl, -⟩ := comesBetween.unique (split ▸ comes)
      exact present
    | cons first rest => exact presentBetween (by simp)
  obtain ⟨finish, descends⟩ := comesBetween.descendsTo request there
  constructor
  · rintro ⟨cursor', middle', comes', isBean⟩
    obtain ⟨rfl, rfl⟩ := comesBetween.unique comes'
    exact ⟨_, reached, descends, Value.unwrapped_eq_bean_iff.1 isBean⟩
  · rintro ⟨stage, middle', descends', core⟩
    obtain ⟨rfl, rfl⟩ := descends.unique descends'
    exact ⟨between, reached, comesBetween, Value.unwrapped_eq_bean_iff.2 core⟩

/-- Where a read stops, the owner is the one that a write in the same world finds there. -/
theorem StopsAt.owns_iff (request : WriteRequest)
    (stops : accessor.StopsAt world root before segment later error after) {owner : TypeRef} :
    Owns (accessor.ReadAt world root) root (before ++ [segment]) owner ↔
      Owns (accessor.WrittenAt request world root) root (before ++ [segment]) owner := by
  obtain ⟨cursor, middle, comes, present⟩ : ∃ cursor middle,
      accessor.ComesTo world root before cursor middle ∧ cursor.value.isAbsent = false := by
    cases stops with
    | refused cursor middle _ _ comes present => exact ⟨cursor, middle, comes, present⟩
    | absent cursor _ middle _ comes present => exact ⟨cursor, middle, comes, present⟩
  have same : ∀ front next rest ref, before ++ [segment] = front ++ next :: rest →
      (accessor.ReadAt world root front ref ↔ accessor.WrittenAt request world root front ref) := by
    intro front next rest ref split
    rcases rest.eq_nil_or_concat with rfl | ⟨more, last, rfl⟩
    · obtain ⟨rfl, -⟩ := List.append_inj' split rfl
      exact comes.readAt_iff_writtenAt request present (List.append_nil before).symm
    · rw [List.concat_eq_append, ← List.cons_append, ← List.append_assoc] at split
      exact comes.readAt_iff_writtenAt request present (List.append_inj' split rfl).1
  exact Owns.congr_iff same

end

end Accessor

namespace PropertyPath

variable {path : PropertyPath} {before before' later later' : List Segment}
  {segment segment' : Segment}

/-- The first segments, up to one. -/
theorem take_of_split (split : path.segments = before ++ segment :: later) :
    path.segments.take (before.length + 1) = before ++ [segment] := by
  rw [split, List.append_cons, List.take_left' (by simp)]

/-- Fronts of a path that are written alike are one. -/
theorem eq_of_render_eq (split : path.segments = before ++ segment :: later)
    (split' : path.segments = before' ++ segment' :: later')
    (same : Segment.render (before ++ [segment]) = Segment.render (before' ++ [segment'])) :
    before ++ [segment] = before' ++ [segment'] := by
  have texts : path.front (before.length + 1) = path.front (before'.length + 1) := by
    rw [front_of_split split, front_of_split split', same]
  have lengths : before.length + 1 = before'.length + 1 :=
    front_injective (Nat.succ_pos _) (length_of_split split).1 (Nat.succ_pos _)
      (length_of_split split').1 texts
  rw [← take_of_split split, ← take_of_split split', lengths]

end PropertyPath

/-- The error names a front of the path and tells of the owner at its end. -/
def AccessError.NamesOwner (path : PropertyPath) (resolvedOn : List Segment → BeanRef → Prop)
    (root : BeanRef) (error : AccessError) : Prop :=
  ∃ count owner, 0 < count ∧ count ≤ path.length ∧ error.property? = some (path.front count) ∧
    error.owner? = some owner ∧ Owns resolvedOn root (path.segments.take count) owner

/-- What tells of a front of the path names the owner of that front. -/
theorem AccessError.TellsOwner.namesOwner {path : PropertyPath}
    {resolvedOn : List Segment → BeanRef → Prop} {root : BeanRef} {before later : List Segment}
    {segment : Segment} {error : AccessError}
    (tells : error.TellsOwner resolvedOn root (before ++ [segment]))
    (split : path.segments = before ++ segment :: later) :
    error.NamesOwner path resolvedOn root := by
  obtain ⟨owner, told, owns⟩ := tells
  refine ⟨before.length + 1, owner, Nat.succ_pos _, (PropertyPath.length_of_split split).1, ?_,
    told.owner, ?_⟩
  · rw [PropertyPath.front_of_split split]
    exact told.property
  · rwa [PropertyPath.take_of_split split]

namespace Accessor

/-- A failed read or description names a front of the path and the owner at its end. A failed write
that tells of an owner names a front, and the owner at its end unless the front ends with a key that
is met by a bean of another type. A read that fails at the same front of the same graph tells of
the same owner, but for that. -/
theorem errors_name_owner (accessor : Accessor) (root : BeanRef) (path : PropertyPath) :
    (∀ world error after, (accessor.get root path).runOn world = (.error error, after) →
      error.NamesOwner path (accessor.ReadAt world root) root) ∧
    (∀ world error after, (accessor.describe root path).runOn world = (.error error, after) →
      error.NamesOwner path (accessor.ReadAt world root) root) ∧
    ∀ options raw world error after owner,
      (accessor.setWith options root path raw).runOn world = (.error error, after) →
      error.owner? = some owner →
      ∃ oldValue? start count,
        (accessor.oldValue options root path).runOn world = (.ok oldValue?, start) ∧
        0 < count ∧ count ≤ path.length ∧ error.property? = some (path.front count) ∧
        (Owns (accessor.WrittenAt ⟨raw, options⟩ start root) root (path.segments.take count)
            owner ↔
          accessor.KeyMeetsOwner ⟨raw, options⟩ start root (path.segments.take count)) ∧
        ∀ error' after' owner', (accessor.get root path).runOn start = (.error error', after') →
          error'.property? = error.property? → error'.owner? = some owner' →
          (owner = owner' ↔
            accessor.KeyMeetsOwner ⟨raw, options⟩ start root (path.segments.take count)) := by
  refine ⟨fun world error after failed => ?_, fun world error after failed => ?_, ?_⟩
  · obtain ⟨before, segment, later, split, stops⟩ := stopsAt_of_get failed
    exact stops.tellsOwner.namesOwner split
  · rcases Access.runOn_bind_eq_error_iff.1 failed with failed | ⟨parent, middle, walked, failed⟩
    · obtain ⟨before, segment, later, split, -, stops⟩ := stopsAt_of_parent failed
      exact stops.tellsOwner.namesOwner split
    · obtain ⟨split, comes, -⟩ := parent_eq_ok_iff.1 walked
      exact (comes.describeStep_failsAs parent.last middle error after failed).namesOwner split
  · intro options raw world error after owner failed told
    obtain ⟨oldValue?, start, front, last, rest, stage, read, split, fails⟩ :=
      exists_failsAt_of_setWith failed
    obtain ⟨property, rightly⟩ := fails.owns_iff told
    refine ⟨oldValue?, start, front.length + 1, read, Nat.succ_pos _,
      (PropertyPath.length_of_split split).1, ?_, ?_, ?_⟩
    · rw [PropertyPath.front_of_split split, property]
    · rwa [PropertyPath.take_of_split split]
    · intro error' after' owner' failed' same told'
      obtain ⟨before, segment, later, split', stops⟩ := stopsAt_of_get failed'
      obtain ⟨right, tells, owns⟩ := stops.tellsOwner
      obtain rfl : right = owner' := Option.some.inj (tells.owner.symm.trans told')
      have sameFront : before ++ [segment] = front ++ [last] :=
        PropertyPath.eq_of_render_eq split' split
          (Option.some.inj (tells.property.symm.trans (same.trans property)))
      have written := sameFront ▸ (stops.owns_iff ⟨raw, options⟩).1 owns
      rw [PropertyPath.take_of_split split, ← rightly]
      constructor
      · rintro rfl
        exact written
      · exact fun owns' => Owns.unique (fun _ _ _ one other => one.unique other) owns' written

open Household in
/-- The owner of Rex is no list. A read of an element of it tells of the pet that has the owner, and
so it should be; a write tells of the person. -/
theorem set_element_of_owner_names_person :
    let path : PropertyPath := ⟨.name "owner", [.key "0" false, .name "name"]⟩
    PropertyPath.parse "owner[0].name" = .ok path ∧ 2 < path.length ∧
      Owns (accessor.WrittenAt ⟨.text "Ida", accessor.options⟩ (world []) rex) rex
        (path.segments.take 2) pet ∧
      ∃ error after error' after',
        (accessor.get rex path).runOn (world []) = (.error error, after) ∧
        (accessor.set rex path (.text "Ida")).runOn (world []) = (.error error', after') ∧
        error.property? = some (path.front 2) ∧ error'.property? = some (path.front 2) ∧
        error.owner? = some pet ∧ error'.owner? = some person ∧ person ≠ pet := by
  intro path
  have owns : Owns (accessor.WrittenAt ⟨.text "Ida", accessor.options⟩ (world []) rex) rex
      ([] ++ [.name "owner"]) pet :=
    .name [] "owner" rex ⟨.root rex, world [], .root, rfl⟩
  refine ⟨by decide +kernel, by decide, .onward _ (.key "0" false) pet owns fun _ _ => rfl, ?_⟩
  exact ⟨_, _, _, _, rfl, rfl, rfl, rfl, rfl, rfl, by decide⟩

end Accessor

end PropertyGraph
