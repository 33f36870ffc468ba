import PropertyGraph.Proofs.Read.Alike
import PropertyGraph.Proofs.Write.Walk

/-!
# Writes that run alike

A write goes down a path segment by segment, and puts the changed copies of collections back on its
way up again. What it has come to on the way down is a stage: the value that it goes into and what
it will do with the changed value. Two rows of segments are written in step if segments at the same
place stand for each other and, on the beans that the first row comes to, the names at the same
place are the same property. Then both are written alike, whatever is made, refused or put back on
the way.
-/
namespace PropertyGraph.Accessor

open Access (Alike)

/-- What a write has come to on its way down: a value, its slot and what is left to do at the slot
when the value has been written into. -/
structure Stage where
  /-- The value that the write goes into. -/
  value : Value
  /-- The declared type of its slot. -/
  declared : DeclaredType
  /-- The type of the bean that holds the property. -/
  owner : TypeRef
  /-- What is done when the value has been written into. -/
  finish : Written → Access Written

/-- The root of a path. -/
def Stage.root (ref : BeanRef) : Stage :=
  ⟨.bean ref, .bean ref.type, ref.type, pure⟩

/-- The way up through a property: a changed copy is put back. -/
def finishProperty (walked : List Segment) (ref : BeanRef) (info : PropertyInfo)
    (written : Written) : Access Written := do
  if let some copy := written.copy? then
    putBack walked ref info copy
  return ⟨written.value, none⟩

/-- Goes down a segment that is not the last. -/
def advance (accessor : Accessor) (request : WriteRequest) (before : List Segment)
    (segment : Segment) (stage : Stage) : Access Stage := do
  let walked := before ++ [segment]
  let element := stage.declared.element
  match stage.value.core, segment with
  | .bean ref, .name name =>
    match accessor.capability? ref.type name with
    | some (.property info) =>
      if info.isReadable then
        let child ← accessor.enter request walked ref info
        return ⟨child, info.type, ref.type, finishProperty walked ref info⟩
      else
        throw (.notReadable (Segment.render walked) ref.type)
    | some .handle =>
      let handle ← handleCursor ref.type
      return ⟨handle.value, handle.declared, ref.type, fun written => pure ⟨written.value, none⟩⟩
    | none => throw (.notReadable (Segment.render walked) ref.type)
  | .bean ref, segment => throw (unsupported walked ref.type (.bean ref) segment)
  | .list items, .key key _ =>
    let index ← listIndex walked stage.owner key
    let items ← accessor.extendTo request before segment stage.owner element index items
    let slot ← accessor.enterSlot request walked stage.owner element (items[index]?.getD .null)
    return ⟨slot, element, stage.owner, fun written =>
      pure ⟨written.value,
        some ((Value.list (items.set index (written.copy?.getD slot))).wrap stage.value.depth)⟩⟩
  | .map entries, .key key _ =>
    let slot ← accessor.enterSlot request walked stage.owner element
      ((Entries.find? key entries).getD .null)
    return ⟨slot, element, stage.owner, fun written =>
      pure ⟨written.value,
        some ((Value.map (Entries.insert key (written.copy?.getD slot) entries)).wrap
          stage.value.depth)⟩⟩
  | other, segment => throw (unsupported walked stage.owner other segment)

section

variable {accessor : Accessor} {request : WriteRequest} {like : Likeness}
  {walked walked' before before' : List Segment} {segment segment' : Segment}

/-- A segment that is not the last is written by going down, writing below, and coming up again. -/
theorem writeStep_eq_advance (descend : Descent) (stage : Stage) :
    accessor.writeStep request before segment (some descend) stage.value stage.declared
        stage.owner =
      accessor.advance request before segment stage >>= fun next =>
        descend next.value next.declared next.owner >>= next.finish := by
  unfold writeStep advance
  dsimp only
  cases stage.value.core with
  | bean ref =>
    cases segment with
    | key label quoted => simp
    | name label =>
      simp only [writeBelow]
      cases accessor.capability? ref.type label with
      | none => simp
      | some found =>
        cases found with
        | handle => simp
        | property info =>
          by_cases readable : info.isReadable
          · simp only [readable, ↓reduceIte, writeThrough, bind_assoc, pure_bind]
            rfl
          · simp [readable]
  | list items => cases segment <;> simp [writeElement, writeSlot]
  | map entries => cases segment <;> simp [writeEntry, writeSlot]
  | _ => simp

/-! ## Making values -/

section

variable (told : like.texts (Segment.render walked) (Segment.render walked'))

include told

/-- A raw value is converted alike, or refused alike. -/
theorem convertRaw_alike (raw : Value) (target : DeclaredType) :
    Alike like Eq (accessor.convertRaw walked raw target)
      (accessor.convertRaw walked' raw target) := by
  intro left right same
  rw [convertRaw, convertRaw, Access.runOn_mk_pure, Access.runOn_mk_pure]
  refine ⟨?_, same⟩
  cases convertTo accessor.converter raw target with
  | ok value => exact .ok rfl
  | error cause => exact .error (.typeMismatch cause told)

/-- A bean is made alike in both worlds. -/
theorem construct_alike (alike : accessor.ConstructsAlike) (owner type : TypeRef) :
    Alike like Eq (accessor.construct walked owner type)
      (accessor.construct walked' owner type) := by
  unfold construct
  split
  · next make found =>
    refine .bind_same (fun left right same => ?_) fun _ => .pure rfl
    obtain ⟨sameRef, graph⟩ := alike type make found left right same
    exact ⟨.ok sameRef, graph⟩
  · exact .throw (.growFailed owner _ told)

/-- An absent value is made alike in both worlds. -/
theorem grow_alike (alike : accessor.ConstructsAlike) (owner : TypeRef) (declared : DeclaredType) :
    Alike like Eq (accessor.grow walked owner declared) (accessor.grow walked' owner declared) := by
  have recorded (value : Value) (type : DeclaredType) (text text' : String) :
      Alike like Eq (do Access.record (.grown text type); return value)
        (do Access.record (.grown text' type); return value) :=
    .bind_same (.record _ _) fun _ => .pure rfl
  unfold grow
  dsimp only
  split
  · exact .bind_same (construct_alike told alike owner _) fun _ => recorded _ _ _ _
  · exact .bind_same (.pure rfl) fun _ => recorded _ _ _ _
  · exact .bind_same (.pure rfl) fun _ => recorded _ _ _ _
  · exact .bind_same (.throw (.growFailed owner _ told)) fun _ => recorded _ _ _ _

/-- An absent value is made alike, or refused alike. -/
theorem growIfAllowed_alike (alike : accessor.ConstructsAlike) (owner : TypeRef)
    (declared : DeclaredType) :
    Alike like Eq (accessor.growIfAllowed request walked owner declared)
      (accessor.growIfAllowed request walked' owner declared) := by
  unfold growIfAllowed
  split
  · exact grow_alike told alike owner declared
  · exact .throw (.growFailed owner _ told)

/-- A skipped element is made alike. -/
theorem filler_alike (alike : accessor.ConstructsAlike) (owner : TypeRef)
    (element : DeclaredType) :
    Alike like Eq (accessor.filler walked owner element)
      (accessor.filler walked' owner element) := by
  unfold filler
  split
  case h_8 => exact grow_alike told alike owner element
  all_goals exact .pure rfl

/-- A number of skipped elements is made alike. -/
theorem fillers_alike (alike : accessor.ConstructsAlike) (owner : TypeRef)
    (element : DeclaredType) (count : Nat) :
    Alike like Eq (accessor.fillers walked owner element count)
      (accessor.fillers walked' owner element count) := by
  induction count with
  | zero => exact .pure rfl
  | succ count ih =>
    exact .bind_same (filler_alike told alike owner element) fun _ =>
      .bind_same ih fun _ => .pure rfl

/-! ## Slots and properties -/

/-- A value is put into a property alike. -/
theorem put_alike (ref : BeanRef) (info : PropertyInfo) (value : Value) :
    Alike like Eq (put walked ref info value) (put walked' ref info value) :=
  invoke_alike told ref fun _ _ same => same.write ref info value

/-- A value is put back alike. -/
theorem putBack_alike (ref : BeanRef) (info : PropertyInfo) (value : Value) :
    Alike like Eq (putBack walked ref info value) (putBack walked' ref info value) := by
  unfold putBack
  split
  · exact put_alike told ref info value
  · exact .throw (.notWritable ref.type told like.unhinted)

/-- A property is entered alike. -/
theorem enter_alike (alike : accessor.ConstructsAlike) (ref : BeanRef) (info : PropertyInfo) :
    Alike like Eq (accessor.enter request walked ref info)
      (accessor.enter request walked' ref info) := by
  refine .bind_same (invoke_alike told ref fun _ _ same => same.read ref _) fun child => ?_
  split
  · exact .bind_same (growIfAllowed_alike told alike ref.type info.type) fun grown =>
      .bind_same (putBack_alike told ref info grown) fun _ => .pure rfl
  · exact .pure rfl

/-- A slot of a collection is entered alike. -/
theorem enterSlot_alike (alike : accessor.ConstructsAlike) (owner : TypeRef)
    (element : DeclaredType) (slot : Value) :
    Alike like Eq (accessor.enterSlot request walked owner element slot)
      (accessor.enterSlot request walked' owner element slot) := by
  unfold enterSlot
  split
  · exact growIfAllowed_alike told alike owner element
  · exact .pure rfl

/-- A copy goes back into its property alike, where there is one. -/
theorem finishProperty_alike (ref : BeanRef) (info : PropertyInfo) (written : Written) :
    Alike like Eq (finishProperty walked ref info written)
      (finishProperty walked' ref info written) := by
  unfold finishProperty
  split
  · exact .bind_same (putBack_alike told ref info _) fun _ => .pure rfl
  · exact .pure rfl

/-- A name that ends the path is written alike under both of its names. -/
theorem writeLast_alike (ref : BeanRef) {label label' : String}
    (hinted : like.hints (accessor.suggest ref.type label) (accessor.suggest ref.type label'))
    (same : accessor.capability? ref.type label = accessor.capability? ref.type label') :
    Alike like Eq (accessor.writeLast request walked ref label)
      (accessor.writeLast request walked' ref label') := by
  have refused : Alike like (Eq : Written → Written → Prop)
      (throw (accessor.notWritable walked ref.type label))
      (throw (accessor.notWritable walked' ref.type label')) :=
    .throw (.notWritable ref.type told hinted)
  unfold writeLast
  rw [same]
  split
  · split
    · exact .bind_same (convertRaw_alike told request.raw _) fun value =>
        .bind_same (put_alike told ref _ value) fun _ => .pure rfl
    · exact refused
  · exact refused

end

/-- A list is extended alike. -/
theorem extendTo_alike (told : like.texts (Segment.render (before ++ [segment]))
      (Segment.render (before' ++ [segment'])))
    (alike : accessor.ConstructsAlike) (owner : TypeRef) (element : DeclaredType) (index : Nat)
    (items : List Value) :
    Alike like Eq (accessor.extendTo request before segment owner element index items)
      (accessor.extendTo request before' segment' owner element index items) := by
  unfold extendTo
  dsimp only
  split
  · exact .pure rfl
  split
  · exact .throw (.invalidProperty owner _ told)
  split
  · exact .throw (.growFailed owner _ told)
  · exact .bind_same (.record _ _) fun _ =>
      .bind_same (fillers_alike told alike owner element _) fun _ => .pure rfl

/-! ## Segments -/

/-- The last segment of a path is written alike. -/
theorem writeStep_alike (alike : accessor.ConstructsAlike)
    (told : like.texts (Segment.render (before ++ [segment]))
      (Segment.render (before' ++ [segment'])))
    (twins : like.segments segment segment') {holder : Value}
    (same : accessor.SameOn holder segment segment') (declared : DeclaredType) (owner : TypeRef) :
    Alike like Eq (accessor.writeStep request before segment none holder declared owner)
      (accessor.writeStep request before' segment' none holder declared owner) := by
  unfold writeStep
  cases like.twins twins with
  | name label label' =>
    cases core : holder.core with
    | bean ref =>
      have hinted := like.hinted twins accessor ref.type
      exact writeLast_alike told ref hinted (same ref label label' core rfl rfl)
    | _ => exact unsupported_alike told (.name label label') _ _
  | key label quoted =>
    cases core : holder.core with
    | list items =>
      simp only [writeElement, writeSlot, bind_assoc, pure_bind]
      exact .bind_same (listIndex_alike told _ _) fun index =>
        .bind_same (extendTo_alike told alike _ _ index _) fun items =>
          .bind_same (convertRaw_alike told _ _) fun value => .pure rfl
    | map entries =>
      simp only [writeEntry, writeSlot, bind_assoc, pure_bind]
      exact .bind_same (convertRaw_alike told _ _) fun value => .pure rfl
    | _ => exact unsupported_alike told (.key label quoted) _ _

/-- The writes have come to the same value, and do the same on their way up. -/
structure StagesAlike (like : Likeness) (stage stage' : Stage) : Prop where
  value : stage.value = stage'.value
  declared : stage.declared = stage'.declared
  owner : stage.owner = stage'.owner
  finish : ∀ written, Alike like Eq (stage.finish written) (stage'.finish written)

/-- A write goes down a segment alike. -/
theorem advance_alike (alike : accessor.ConstructsAlike)
    (told : like.texts (Segment.render (before ++ [segment]))
      (Segment.render (before' ++ [segment'])))
    (twin : segment.Twin segment') {stage : Stage}
    (same : accessor.SameOn stage.value segment segment') :
    Alike like (StagesAlike like) (accessor.advance request before segment stage)
      (accessor.advance request before' segment' stage) := by
  unfold advance
  cases twin with
  | name label label' =>
    cases core : stage.value.core with
    | bean ref =>
      dsimp only
      rw [same ref label label' core rfl rfl]
      split
      · split
        · exact .bind_same (enter_alike told alike ref _) fun child =>
            .pure ⟨rfl, rfl, rfl, finishProperty_alike told ref _⟩
        · exact .throw (.notReadable ref.type told)
      · exact .bind_same (handleCursor_alike ref.type) fun _ =>
          .pure ⟨rfl, rfl, rfl, fun _ => .pure rfl⟩
      · exact .throw (.notReadable ref.type told)
    | _ => exact unsupported_alike told (.name label label') _ _
  | key label quoted =>
    cases core : stage.value.core with
    | list items =>
      exact .bind_same (listIndex_alike told _ _) fun index =>
        .bind_same (extendTo_alike told alike _ _ index _) fun items =>
          .bind_same (enterSlot_alike told alike _ _ _) fun slot =>
            .pure ⟨rfl, rfl, rfl, fun _ => .pure rfl⟩
    | map entries =>
      exact .bind_same (enterSlot_alike told alike _ _ _) fun slot =>
        .pure ⟨rfl, rfl, rfl, fun _ => .pure rfl⟩
    | _ => exact unsupported_alike told (.key label quoted) _ _

/-! ## Rows of segments -/

/-- Two rows of segments are written in step from a stage, the first row on the given world. -/
inductive WritesTwins (accessor : Accessor) (like : Likeness) (request : WriteRequest) :
    World → Stage → List Segment → Segment → List Segment → Segment → List Segment → Prop
  | last {world : World} {stage : Stage} {before : List Segment} {segment segment' : Segment}
      (twins : like.segments segment segment')
      (same : accessor.SameOn stage.value segment segment') :
    WritesTwins accessor like request world stage before segment [] segment' []
  | step {world : World} {stage : Stage} {before later later' : List Segment}
      {segment segment' next next' : Segment} (twins : like.segments segment segment')
      (same : accessor.SameOn stage.value segment segment')
      (further : ∀ stage' after,
        (accessor.advance request before segment stage).runOn world = (.ok stage', after) →
        WritesTwins accessor like request after stage' (before ++ [segment]) next later next'
          later') :
    WritesTwins accessor like request world stage before segment (next :: later) segment'
      (next' :: later')

variable (request) in
/-- A row of segments is written in step with itself. -/
theorem WritesTwins.refl (stands : ∀ segment, like.segments segment segment)
    (later : List Segment) :
    ∀ (world : World) (stage : Stage) (before : List Segment) (segment : Segment),
      accessor.WritesTwins like request world stage before segment later segment later := by
  induction later with
  | nil => exact fun _ _ _ segment => .last (stands segment) (.refl accessor _ segment)
  | cons next later ih =>
    exact fun _ _ _ segment => .step (stands segment) (.refl accessor _ segment)
      fun stage after _ => ih after stage _ next

/-- The first segments stand for each other. -/
theorem WritesTwins.twins {world : World} {stage : Stage} {later later' : List Segment}
    (twins : accessor.WritesTwins like request world stage before segment later segment' later') :
    like.segments segment segment' := by
  cases twins with
  | last twins => exact twins
  | step twins => exact twins

/-- Segments that are written in step are written alike. -/
theorem WritesTwins.writeInto (alike : accessor.ConstructsAlike) {world other : World}
    {stage : Stage} {later later' : List Segment}
    (twins : accessor.WritesTwins like request world stage before segment later segment' later')
    (rows : like.rows (before ++ [segment]) (before' ++ [segment']))
    (graph : world.SameGraph other) :
    RunsAlike like Eq
      ((accessor.writeInto request before segment later stage.value stage.declared
        stage.owner).runOn world)
      ((accessor.writeInto request before' segment' later' stage.value stage.declared
        stage.owner).runOn other) := by
  induction twins generalizing before' other with
  | last twins same => exact writeStep_alike alike (like.told rows) twins same _ _ _ _ graph
  | @step world stage before later later' segment segment' next next' twins same further ih =>
    simp only [Accessor.writeInto, writeStep_eq_advance]
    have told := like.told rows
    refine RunsAlike.bind (advance_alike alike told (like.twins twins) same world other graph) ?_
    intro stage' stage'' left right advanced _ sameNext graph
    have onward := like.onward rows (further _ _ advanced).twins
    have below := ih stage' left advanced onward graph
    rw [← sameNext.value, ← sameNext.declared, ← sameNext.owner]
    refine RunsAlike.bind below fun written _ left right _ _ same graph => ?_
    exact same ▸ sameNext.finish written left right graph

/-! ## Paths -/

/-- The changes differ in how the path is written alone. -/
structure ChangesAlike (like : Likeness) (change change' : PropertyChange) : Prop where
  property : like.texts change.property change'.property
  oldValue? : change.oldValue? = change'.oldValue?
  newValue : change.newValue = change'.newValue

variable {world other : World} {root : BeanRef} {path path' : PropertyPath}

/-- The old value is reported alike where it is read alike. -/
theorem oldValue_alike (options : AccessOptions) (graph : world.SameGraph other)
    (reads : options.extractOldValue = true →
      RunsAlike like Eq ((accessor.get root path).runOn world)
        ((accessor.get root path').runOn other)) :
    RunsAlike like Eq ((accessor.oldValue options root path).runOn world)
      ((accessor.oldValue options root path').runOn other) := by
  unfold oldValue
  split
  case isTrue extracts =>
    obtain ⟨outcome, graph⟩ := reads extracts
    rw [readOld, readOld, Access.runOn_tryCatch, Access.runOn_tryCatch, Access.runOn_map,
      Access.runOn_map]
    generalize ((accessor.get root path).runOn world).1 = here at outcome
    generalize ((accessor.get root path').runOn other).1 = there at outcome
    cases outcome with
    | ok same => exact ⟨.ok (congrArg some same), graph⟩
    | error fails => exact ⟨.ok rfl, graph.record _ _⟩
  case isFalse => exact ⟨.ok rfl, graph⟩

/-- Paths that are read in step, and then written in step, are set alike. -/
theorem setWith_alike (alike : accessor.ConstructsAlike) (options : AccessOptions) (raw : Value)
    (rows : like.rows [path.first] [path'.first])
    (told : like.texts path.text path'.text) (graph : world.SameGraph other)
    (reads : options.extractOldValue = true →
      accessor.ReadsTwins like world (.root root) [] path.first path.later path'.first path'.later)
    (writes : ∀ oldValue? start,
      (accessor.oldValue options root path).runOn world = (.ok oldValue?, start) →
      accessor.WritesTwins like ⟨raw, options⟩ start (.root root) [] path.first path.later
        path'.first path'.later) :
    RunsAlike like (ChangesAlike like) ((accessor.setWith options root path raw).runOn world)
      ((accessor.setWith options root path' raw).runOn other) := by
  have firstRows : like.rows ([] ++ [path.first]) ([] ++ [path'.first]) := rows
  rw [setWith_eq_bind, setWith_eq_bind]
  have readOld := oldValue_alike options graph fun extracts =>
    (reads extracts).readFrom firstRows graph
  refine RunsAlike.bind readOld ?_
  rintro oldValue? _ start start' began - rfl graph
  have wrote := (writes oldValue? start began).writeInto alike firstRows graph
  have put : RunsAlike like Eq ((accessor.writePath options root path raw).runOn start)
      ((accessor.writePath options root path' raw).runOn start') := by
    refine RunsAlike.bind wrote ?_
    rintro written _ left right - - rfl graph
    exact ⟨.ok rfl, graph⟩
  refine RunsAlike.bind put ?_
  rintro newValue _ left right - - rfl graph
  exact ⟨.ok ⟨told, rfl, rfl⟩, graph⟩

end

end PropertyGraph.Accessor
