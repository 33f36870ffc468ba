import PropertyGraph.Proofs.Write.Echo
import PropertyGraph.Proofs.Write.Resumption

/-!
# Failed writes

A write is not undone when it fails late. Without growth it has an effect when it fails only if it
breaks off: the raw value has been stored at the end of the path, and then a collection further up,
in which nothing but a bean was changed, is put back all the same and is refused by its property.
-/
namespace PropertyGraph.Accessor

section

variable {accessor : Accessor} {schema : Schema} {world middle : World} {root ref : BeanRef}
  {options : AccessOptions} {path : PropertyPath} {raw : Value}

/-- The part of a write that is done at its target: the path from the last name on. -/
def Target.write (target : accessor.Target schema world root path) (request : WriteRequest) :
    Access Written :=
  accessor.writeInto request target.front (.name target.label) target.keys (.bean target.ref)
    (.bean target.ref.type) target.ref.type

/-- A property takes back, in a later world, the value that is read of it in the world. -/
def TakesBack (world later : World) (ref : BeanRef) (info : PropertyInfo) : Prop :=
  info.isWritable = true ∧
    ∃ value, (world.read ref info).1 = .ok value ∧ (later.write ref info value).1 = .ok ()

/-- A write breaks off at a property that its path passes: what is done at its target has changed
the target, and the property does not take its value back. Those that are passed behind it do, and
none of them shows the target, which would be restored by it. -/
structure Target.BreaksOffAt (target : accessor.Target schema world root path)
    (request : WriteRequest) (stored : World) (front : List Segment) (label : String)
    (ref : BeanRef) (info : PropertyInfo) : Prop where
  written : ∃ written, (target.write request).runOn world = (.ok written, stored)
  changed : stored.cell? target.ref target.field ≠ world.cell? target.ref target.field
  passes : accessor.Passes world root path front label ref info
  refuses : ¬ TakesBack world stored ref info
  behind : ∀ front' label' ref' info', accessor.Passes world root path front' label' ref' info' →
    front.length < front'.length → TakesBack world stored ref' info' ∧
      ¬ (ref' = target.ref ∧ info'.ShowsField target.ref.type target.field target.type)

/-- All that has changed when a write breaks off: the target holds what was stored. -/
structure Target.KeepsStored (target : accessor.Target schema world root path)
    (stored after : World) : Prop where
  guards : after.guards = world.guards
  has : ∀ other, world.Has other → after.Has other
  cell : after.cell? target.ref target.field = stored.cell? target.ref target.field
  others : ∀ other field, world.Has other → ¬ (other = target.ref ∧ field = target.field) →
    after.cell? other field = world.cell? other field

/-! ## What is passed is put back -/

/-- A name with a key and a further name behind it is in front of the last name. -/
theorem Passes.before_last {front front' keys : List Segment} {label label' : String}
    {info : PropertyInfo} (passes : accessor.Passes world root path front' label' ref info)
    (segments : path.segments = front ++ .name label :: keys)
    (isKey : ∀ segment ∈ keys, segment.isName = false) :
    ∃ key quoted rest, front = front' ++ .name label' :: .key key quoted :: rest := by
  obtain ⟨key, quoted, rest, split, segment, among, isName⟩ := passes.split
  have same : front ++ .name label :: keys =
      (front' ++ [.name label', .key key quoted]) ++ rest := by simp [← segments, split]
  rcases List.append_eq_append_iff.1 same with ⟨between, passed, last⟩ | ⟨between, whole, -⟩
  · -- the further name is among the keys, unless it is the last name itself
    cases between with
    | nil => exact ⟨key, quoted, [], by simpa using passed.symm⟩
    | cons first between =>
      obtain ⟨-, rfl⟩ := List.cons.inj last
      exact absurd (isKey segment (List.mem_append_right _ among)) (by simp [isName])
  · exact ⟨key, quoted, between, by simpa using whole⟩

/-- Into every property that the path passes something is put back. -/
theorem QuietPlan.exists_put_of_passes {front front' keys : List Segment} {label label' : String}
    {plan : Plan} {info passed : PropertyInfo} {target : BeanRef} {rebuild : Value → Value}
    {pending : List Put}
    (quiet : accessor.QuietPlan world root [] (.bean root) front label keys plan target info rebuild
      pending) (segments : path.segments = front ++ .name label :: keys)
    (isKey : ∀ segment ∈ keys, segment.isName = false)
    (passes : accessor.Passes world root path front' label' ref passed) :
    ∃ put ∈ pending, put.walked = front' ++ [.name label'] ∧ put.ref = ref ∧ put.info = passed := by
  obtain ⟨key, quoted, rest, split⟩ := passes.before_last segments isKey
  obtain ⟨put, among, walked⟩ := quiet.complete front' label' key quoted rest split
  obtain ⟨front'', label'', walked', passes'⟩ := (quiet.putsBack put among).isPassed segments
  obtain ⟨rfl, same⟩ := List.append_inj' (walked'.symm.trans walked) rfl
  obtain rfl : label'' = label' := by simpa using same
  have sameRef := passes'.reaches.unique passes.reaches
  have names := passes'.names
  rw [sameRef, passes.names] at names
  exact ⟨put, among, walked, sameRef, by simpa using names.symm⟩

/-- A value is put back exactly if its property takes it back. -/
theorem PutsBack.takesBack_iff {before front : List Segment} {put : Put}
    (putsBack : accessor.PutsBack world root before front put) {later : World} :
    TakesBack world later put.ref put.info ↔
      ∃ after, (putBack put.walked put.ref put.info put.value).runOn later = (.ok (), after) := by
  simp [putBack_succeeds_iff, TakesBack, putsBack.read]

/-- A property takes its value back in a world exactly if it does in what the world has become. -/
theorem takesBack_iff_of_evolves {stored later : World} (evolves : stored.EvolvesTo [] later)
    (has : stored.Has ref) {info : PropertyInfo} :
    TakesBack world later ref info ↔ TakesBack world stored ref info := by
  simp only [TakesBack,
    World.write_fst_of_bean evolves.guards (evolves.bean ref has (by simp))]

/-- What is put back after one cell has changed is taken by the later world exactly if it is by the
earlier one. -/
theorem PutsBack.takesBack_store_iff (evolves : world.EvolvesTo [] middle) (has : world.Has ref)
    (field : String) (cell : Field) {before front : List Segment} {put : Put}
    (putsBack : accessor.PutsBack world root before front put) :
    TakesBack world (world.store ref field cell) put.ref put.info ↔ ∃ after,
      (putBack put.walked put.ref put.info put.value).runOn (middle.store ref field cell) =
        (.ok (), after) := by
  rw [← putsBack.takesBack_iff, takesBack_iff_of_evolves (evolves.store has field cell)
    ((World.has_store_iff has field cell _).2 putsBack.has)]

/-- A put goes into the target if its property shows the target. -/
theorem Target.touches_iff (target : accessor.Target schema world root path) (put : Put) :
    Touches schema put target.ref target.field ↔
      put.ref = target.ref ∧ put.info.ShowsField target.ref.type target.field target.type := by
  constructor
  · rintro ⟨same, type, typed, shows⟩
    obtain rfl : type = target.type := by simpa [target.typed] using typed.symm
    exact ⟨same, same ▸ shows⟩
  · rintro ⟨same, shows⟩
    exact ⟨same, target.type, target.typed, same.symm ▸ shows⟩

/-- In a row in which longer rows of segments come first, what comes before a put is longer. -/
theorem mem_before_iff {before rest : List Put} {put other : Put}
    (ordered : (before ++ put :: rest).Pairwise fun inner outer =>
      outer.walked.length < inner.walked.length) (among : other ∈ before ++ put :: rest) :
    other ∈ before ↔ put.walked.length < other.walked.length := by
  obtain ⟨-, behind, across⟩ := List.pairwise_append.1 ordered
  refine ⟨fun early => across other early put List.mem_cons_self, fun longer => ?_⟩
  rcases List.mem_append.1 among with early | late
  · exact early
  rcases List.mem_cons.1 late with rfl | late
  · exact absurd longer (Nat.lt_irrefl _)
  · exact absurd longer (Nat.not_lt_of_lt ((List.pairwise_cons.1 behind).1 other late))

/-- The property of a put does not take its value back in the later world. Every put with a longer
row of segments is taken back and goes elsewhere than into the cell. -/
structure FirstRefused (schema : Schema) (world stored : World) (ref : BeanRef) (field : String)
    (pending : List Put) (refuser : Put) : Prop where
  among : refuser ∈ pending
  refuses : ¬ TakesBack world stored refuser.ref refuser.info
  behind : ∀ put ∈ pending, refuser.walked.length < put.walked.length →
    TakesBack world stored put.ref put.info ∧ ¬ Touches schema put ref field

section

variable {field : String} {cell : Field} {before front : List Segment} {pending : List Put}

/-- Where a put is the first that is refused, putting back a row fails with its refusal, and
nothing has become of what had changed. -/
theorem FirstRefused.runOn_putAll (plain : accessor.registry.Plain schema)
    (fits : schema.Fits world) (evolves : world.EvolvesTo [] middle) (has : world.Has ref)
    (putsBack : ∀ put ∈ pending, accessor.PutsBack world root before front put)
    (ordered : pending.Pairwise fun inner outer => outer.walked.length < inner.walked.length)
    {refuser : Put}
    (first : FirstRefused schema world (world.store ref field cell) ref field pending refuser) :
    ∃ error, PutRefused refuser.walked refuser.ref.type refuser.info error ∧
      (putAll pending).runOn (middle.store ref field cell) =
        (.error error, middle.store ref field cell) := by
  obtain ⟨done, rest, rfl⟩ := List.append_of_mem first.among
  have early : ∀ put ∈ done, put ∈ done ++ refuser :: rest := fun put among =>
    List.mem_append_left _ among
  have stays : (putAll done).runOn (middle.store ref field cell) =
      (.ok (), middle.store ref field cell) := by
    refine putAll_stays plain fits evolves has cell
      (fun put among => putsBack put (early put among)) fun put among => ?_
    obtain ⟨takes, apart⟩ := first.behind put (early put among)
      ((mem_before_iff ordered (early put among)).1 among)
    exact ⟨apart,
      ((putsBack put (early put among)).takesBack_store_iff evolves has field cell).1 takes⟩
  have putsRefuser := putsBack refuser first.among
  rcases refused : (putBack refuser.walked refuser.ref refuser.info refuser.value).runOn
    (middle.store ref field cell) with ⟨(error | _), after⟩
  · have hasRefuser : (middle.store ref field cell).Has refuser.ref :=
      (World.has_store_iff (evolves.has ref has) field cell _).2 (evolves.has _ putsRefuser.has)
    obtain ⟨rfl, refusal⟩ := putsRefuser.eq_of_error plain hasRefuser refused
    exact ⟨error, refusal, putAll_eq_error_iff.2 ⟨done, refuser, rest, _, rfl, stays, refused⟩⟩
  · exact absurd ((putsRefuser.takesBack_store_iff evolves has field cell).2 ⟨after, refused⟩)
      first.refuses

/-- If putting back a row fails after one cell has changed, that cell holds what it held, or a put
is the first that is refused and nothing has become of the change. -/
theorem exists_firstRefused (plain : accessor.registry.Plain schema) (fits : schema.Fits world)
    (evolves : world.EvolvesTo [] middle) (has : world.Has ref)
    (putsBack : ∀ put ∈ pending, accessor.PutsBack world root before front put)
    (ordered : pending.Pairwise fun inner outer => outer.walked.length < inner.walked.length)
    {error : AccessError} {after : World}
    (failed : (putAll pending).runOn (middle.store ref field cell) = (.error error, after)) :
    after = middle ∨ after = middle.store ref field cell ∧ ∃ refuser,
      FirstRefused schema world (world.store ref field cell) ref field pending refuser := by
  obtain ⟨done, refuser, rest, last, rfl, puts, refused⟩ := putAll_eq_error_iff.1 failed
  have putsRefuser := putsBack refuser (by simp)
  rcases eq_or_eq_of_putAll plain fits evolves has cell
    (fun put among => putsBack put (List.mem_append_left _ among)) puts with rfl | ⟨rfl, taken⟩
  · exact .inl (putsRefuser.eq_of_error plain (evolves.has _ putsRefuser.has) refused).1
  have hasRefuser : (middle.store ref field cell).Has refuser.ref :=
    (World.has_store_iff (evolves.has ref has) field cell _).2 (evolves.has _ putsRefuser.has)
  obtain ⟨rfl, -⟩ := putsRefuser.eq_of_error plain hasRefuser refused
  refine .inr ⟨rfl, refuser, by simp, fun takes => ?_, fun put among longer => ?_⟩
  · obtain ⟨_, taken⟩ := (putsRefuser.takesBack_store_iff evolves has field cell).1 takes
    simp [taken] at refused
  · obtain ⟨apart, taken⟩ := taken put ((mem_before_iff ordered among).2 longer)
    exact ⟨((putsBack put among).takesBack_store_iff evolves has field cell).2 ⟨_, taken⟩, apart⟩

end

/-! ## Breaking off -/

/-- The target of a write that breaks off is stored, and the write fails with the refusal of the
property at which it breaks off. -/
theorem Target.BreaksOffAt.runOn_writePath (plain : accessor.registry.Plain schema)
    (fits : schema.Fits world) (has : world.Has root) (off : options.growNested = false)
    (evolves : world.EvolvesTo [] middle) {target : accessor.Target schema world root path}
    {stored : World} {front : List Segment} {label : String} {info : PropertyInfo}
    (breaks : target.BreaksOffAt ⟨raw, options⟩ stored front label ref info) :
    ∃ error cell, stored = world.store target.ref target.field cell ∧
      PutRefused (front ++ [.name label]) ref.type info error ∧
      (accessor.writePath options root path raw).runOn middle =
        (.error error, middle.store target.ref target.field cell) := by
  obtain ⟨written, run⟩ := breaks.written
  obtain ⟨plan, value, put, pending, walks, converted, puts, done⟩ :=
    target.leads.walks_of_writeInto plain fits off has target.segments target.isKey target.has run
  -- The write that starts from the later world goes along the same path and has the same plan.
  obtain ⟨⟨bean, last, rebuild, pending', carries⟩, runs⟩ :=
    (walks.again plain fits off (.bean root has) (.refl _ _) evolves).carries plain fits has off
      evolves target.segments target.isKey converted
  have quiet := carries.quiet
  obtain ⟨rfl, rfl⟩ := List.cons.inj (puts.symm.trans (quiet.puts value))
  obtain rfl : target.ref = bean := target.leads.unique quiet.leads
  obtain rfl : target.info = last := by simpa [target.names] using quiet.names
  obtain ⟨cell, rfl, again⟩ := putBack_again target.shows target.has
    (evolves.has _ target.has) evolves.guards (evolves.bean _ target.has (by simp)) done
  obtain ⟨refuser, among, walked, rfl, rfl⟩ :=
    quiet.exists_put_of_passes target.segments target.isKey breaks.passes
  have first : FirstRefused schema world (world.store target.ref target.field cell) target.ref
      target.field pending refuser := by
    refine ⟨among, breaks.refuses, fun put among longer => ?_⟩
    obtain ⟨front', label', walked', passes⟩ :=
      (quiet.putsBack put among).isPassed target.segments
    obtain ⟨takes, apart⟩ := breaks.behind _ _ _ _ passes (by simpa [walked, walked'] using longer)
    exact ⟨takes, fun touches => apart ((target.touches_iff put).1 touches)⟩
  obtain ⟨error, refusal, failed⟩ :=
    first.runOn_putAll plain fits evolves target.has quiet.putsBack quiet.ordered
  refine ⟨error, cell, rfl, walked ▸ refusal, ?_⟩
  rw [runs, puts, putAll, Access.runOn_bind_of_ok again, failed]
  rfl

/-- A write that fails keeps what there is, or it breaks off. -/
theorem breaksOffAt_of_writePath (plain : accessor.registry.Plain schema)
    (fits : schema.Fits world) (has : world.Has root) (off : options.growNested = false)
    (evolves : world.EvolvesTo [] middle) (fitsMiddle : schema.Fits middle) {error : AccessError}
    {after : World}
    (failed : (accessor.writePath options root path raw).runOn middle = (.error error, after)) :
    world.EvolvesTo [] after ∨
      ∃ (target : accessor.Target schema world root path) (stored : World) (front : List Segment)
        (label : String) (ref : BeanRef) (info : PropertyInfo),
        target.BreaksOffAt ⟨raw, options⟩ stored front label ref info := by
  rcases writePath_carries plain fits has off evolves fitsMiddle failed with
    ⟨-, kept⟩ | ⟨front, label, keys, plan, ref, info, rebuild, pending, value, outcome, carries,
      puts, same⟩
  · exact .inl kept
  obtain rfl : outcome = .error error := by
    cases outcome <;> simp_all [Except.map]
  have quiet := carries.quiet
  obtain ⟨field, type, typed, shows⟩ := shows_of_capability? plain quiet.names
  let target : accessor.Target schema world root path := ⟨front, label, keys, ref, info, field,
    type, carries.segments, carries.isKey, quiet.leads, quiet.has, quiet.names, typed, shows⟩
  rw [quiet.puts] at puts
  rcases Access.runOn_bind_eq_error_iff.1 puts with refused | ⟨_, next, done, puts⟩
  · obtain ⟨rfl, -⟩ := eq_of_putBack_refused shows (evolves.has ref quiet.has) refused
    exact .inl evolves
  obtain ⟨cell, rfl, again⟩ := putBack_again shows (evolves.has ref quiet.has) quiet.has
    evolves.guards.symm (evolves.bean ref quiet.has (by simp)).symm done
  rcases exists_firstRefused plain fits evolves quiet.has quiet.putsBack quiet.ordered puts with
    rfl | ⟨rfl, refuser, first⟩
  · exact .inl evolves
  by_cases changed : (world.store ref field cell).cell? ref field = world.cell? ref field
  · rw [World.cell?_store quiet.has quiet.has, if_pos ⟨rfl, rfl⟩] at changed
    rw [World.store_eq_self ((evolves.cell? quiet.has (by simp) field).trans changed.symm)]
    exact .inl evolves
  obtain ⟨front', label', walked, passes⟩ :=
    (quiet.putsBack refuser first.among).isPassed carries.segments
  refine .inr ⟨target, world.store ref field cell, front', label', refuser.ref, refuser.info, ?_,
    changed, passes, first.refuses, fun front'' label'' ref' info' passes' longer => ?_⟩
  · exact quiet.runOn_writeInto plain fits has off carries.segments carries.isKey
      (carries.walks.again plain fits off (.bean root has) evolves (.refl _ _)) carries.converted
      again
  · obtain ⟨put, among, walked', rfl, rfl⟩ :=
      quiet.exists_put_of_passes carries.segments carries.isKey passes'
    obtain ⟨takes, apart⟩ := first.behind put among (by simpa [walked, walked'] using longer)
    exact ⟨takes, fun shown => apart ((target.touches_iff put).2 shown)⟩

/-- A write that breaks off fails with the refusal. Its target holds what was stored, and nothing
else has changed. -/
theorem Target.BreaksOffAt.runOn_setWith (plain : accessor.registry.Plain schema)
    (fits : schema.Fits world) (has : world.Has root) (off : options.growNested = false)
    {target : accessor.Target schema world root path} {stored : World} {front : List Segment}
    {label : String} {info : PropertyInfo}
    (breaks : target.BreaksOffAt ⟨raw, options⟩ stored front label ref info) :
    ∃ error after, (accessor.setWith options root path raw).runOn world = (.error error, after) ∧
      PutRefused (front ++ [.name label]) ref.type info error ∧
      target.KeepsStored stored after := by
  obtain ⟨oldValue?, middle, written, read, evolves, -⟩ := setWith_runs plain fits has (Prod.eta
    ((accessor.setWith options root path raw).runOn world)).symm
  obtain ⟨error, cell, rfl, refused, failed⟩ := breaks.runOn_writePath plain fits has off evolves
  have hasTarget := evolves.has _ target.has
  refine ⟨error, middle.store target.ref target.field cell, ?_, refused, evolves.guards, ?_, ?_, ?_⟩
  · rw [Accessor.runOn_setWith read, failed]
    rfl
  · intro other hasOther
    exact (World.has_store_iff hasTarget _ cell other).2 (evolves.has other hasOther)
  · rw [World.cell?_store hasTarget hasTarget, World.cell?_store target.has target.has]
    simp
  · intro other field hasOther apart
    rw [World.cell?_store hasTarget (evolves.has other hasOther), if_neg apart,
      evolves.cell? hasOther (by simp)]

/-- A write without growth that fails has no effect, exactly if it does not break off. If it does,
it fails with the refusal of the property at which it breaks off; its target holds what was stored,
and nothing else has changed. -/
theorem failed_set_keeps_iff (accessor : Accessor) (plain : accessor.registry.Plain schema)
    (fits : schema.Fits world) (has : world.Has root) (off : options.growNested = false)
    (path : PropertyPath) (raw : Value) :
    ((∀ error after,
        (accessor.setWith options root path raw).runOn world = (.error error, after) →
          world.EvolvesTo [] after) ↔
      ∀ (target : accessor.Target schema world root path) stored front label ref info,
        ¬ target.BreaksOffAt ⟨raw, options⟩ stored front label ref info) ∧
    ∀ (target : accessor.Target schema world root path) stored front label ref info,
      target.BreaksOffAt ⟨raw, options⟩ stored front label ref info →
        ∃ error after,
          (accessor.setWith options root path raw).runOn world = (.error error, after) ∧
            PutRefused (front ++ [.name label]) ref.type info error ∧
            target.KeepsStored stored after := by
  refine ⟨⟨?_, ?_⟩, fun target stored front label ref info breaks =>
    breaks.runOn_setWith plain fits has off⟩
  · intro keeps target stored front label ref info breaks
    obtain ⟨error, after, failed, -, left⟩ := breaks.runOn_setWith plain fits has off
    have kept := (keeps error after failed).cell? target.has (by simp) target.field
    exact breaks.changed (left.cell.symm.trans kept)
  · intro never error after failed
    obtain ⟨oldValue?, middle, written, -, evolves, fitsMiddle, run, outcome⟩ :=
      setWith_runs plain fits has failed
    obtain rfl : written = .error error := by
      cases written <;> simp_all [Except.map]
    rcases breaksOffAt_of_writePath plain fits has off evolves fitsMiddle run with
      kept | ⟨target, stored, front, label, ref, info, breaks⟩
    · exact kept
    · exact absurd breaks (never target stored front label ref info)

end

open Household in
/-- While Eve is under a shared guard, a friend of hers is renamed, and Eve does not take the list
of her friends back. -/
theorem set_friend_of_guarded_breaks_off :
    let guards : List Guard := [⟨eve.index, false⟩]
    let path : PropertyPath := ⟨.name "friends", [.key "0" false, .name "name"]⟩
    ∃ after, (accessor.setWith {} eve path (.text "Anna")).runOn (world guards) =
        (.error (.invocationFailed "friends" person (.borrowed person.path)), after) ∧
      (world guards).shown ann "name" = .text "Ann" ∧ after.shown ann "name" = .text "Anna" :=
  ⟨_, rfl, rfl, rfl⟩

open Household in
/-- The write breaks off at a property that it passes, and leaves the friend renamed. -/
theorem set_friend_of_guarded_leaves_effect :
    let guards : List Guard := [⟨eve.index, false⟩]
    let path : PropertyPath := ⟨.name "friends", [.key "0" false, .name "name"]⟩
    ∃ (target : accessor.Target layout.schema (world guards) eve path) (stored : World)
      (front : List Segment) (label : String) (ref : BeanRef) (info : PropertyInfo),
      target.BreaksOffAt ⟨.text "Anna", {}⟩ stored front label ref info ∧
        ∃ error after, (accessor.setWith {} eve path (.text "Anna")).runOn (world guards) =
            (.error error, after) ∧
          PutRefused (front ++ [.name label]) ref.type info error ∧
          target.KeepsStored stored after := by
  intro guards path
  have off : ({} : AccessOptions).growNested = false := rfl
  obtain ⟨keeps_iff, effect⟩ := failed_set_keeps_iff accessor layout.registry_plain
    (fits_world guards) (has_eve guards) off path (.text "Anna")
  have changes : ¬ ∀ error after,
      (accessor.setWith {} eve path (.text "Anna")).runOn (world guards) = (.error error, after) →
        (world guards).EvolvesTo [] after := by
    intro keeps
    have has_ann : (world guards).Has ann := ⟨_, rfl, rfl⟩
    have same := (keeps _ _ rfl).shown has_ann (by simp) "name"
    have renamed : Value.text "Anna" = .text "Ann" := same
    simp at renamed
  rw [keeps_iff] at changes
  simp only [not_forall, not_not] at changes
  obtain ⟨target, stored, front, label, ref, info, breaks⟩ := changes
  exact ⟨target, stored, front, label, ref, info, breaks, effect _ _ _ _ _ _ breaks⟩

end PropertyGraph.Accessor
