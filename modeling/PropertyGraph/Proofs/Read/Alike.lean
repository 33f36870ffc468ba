import PropertyGraph.Proofs.Access.Alike
import PropertyGraph.Proofs.Read.Frame

/-!
# Reads that run alike

Two rows of segments are read in step if segments at the same place stand for each other and, on the
beans that the first row comes to, the names at the same place are the same property. Then both are
read alike from one cursor, and described alike.
-/
namespace PropertyGraph.Accessor

open Access (Alike)

/-- Two rows of segments are read in step from a cursor, the first row on the given world. -/
inductive ReadsTwins (accessor : Accessor) (like : Likeness) :
    World → Cursor → List Segment → Segment → List Segment → Segment → List Segment → Prop
  | last {world : World} {cursor : Cursor} {before : List Segment} {segment segment' : Segment}
      (twins : like.segments segment segment')
      (same : accessor.SameOn cursor.value segment segment') :
    ReadsTwins accessor like world cursor before segment [] segment' []
  | step {world : World} {cursor : Cursor} {before later later' : List Segment}
      {segment segment' next next' : Segment} (twins : like.segments segment segment')
      (same : accessor.SameOn cursor.value segment segment')
      (further : ∀ cursor' after,
        (accessor.step cursor before segment).runOn world = (.ok cursor', after) →
        cursor'.value.isAbsent = false →
        ReadsTwins accessor like after cursor' (before ++ [segment]) next later next' later') :
    ReadsTwins accessor like world cursor before segment (next :: later) segment' (next' :: later')

/-- Both walks have come to the same value, with last segments that stand for each other on it. -/
structure ParentsAlike (accessor : Accessor) (like : Likeness) (parent parent' : Parent) :
    Prop where
  cursor : parent.cursor = parent'.cursor
  told : like.texts (Segment.render (parent.before ++ [parent.last]))
    (Segment.render (parent'.before ++ [parent'.last]))
  twin : parent.last.Twin parent'.last
  same : accessor.SameOn parent.cursor.value parent.last parent'.last

section

variable {accessor : Accessor} {like : Likeness} {walked walked' before before' : List Segment}
  {segment segment' : Segment}

/-! ## Steps -/

/-- Names that are the same to the accessor are read alike. -/
theorem readName_alike (told : like.texts (Segment.render walked) (Segment.render walked'))
    (ref : BeanRef) {label label' : String}
    (same : accessor.capability? ref.type label = accessor.capability? ref.type label') :
    Alike like Eq (accessor.readName walked ref label) (accessor.readName walked' ref label') := by
  unfold readName
  rw [same]
  split
  · split
    · exact .bind_same (invoke_alike told ref fun _ _ same => same.read ref _) fun _ => .pure rfl
    · exact .throw (.notReadable ref.type told)
  · exact handleCursor_alike ref.type
  · exact .throw (.notReadable ref.type told)

/-- A step is taken alike. -/
theorem step_alike (told : like.texts (Segment.render (before ++ [segment]))
      (Segment.render (before' ++ [segment'])))
    (twin : segment.Twin segment') {cursor : Cursor}
    (same : accessor.SameOn cursor.value segment segment') :
    Alike like Eq (accessor.step cursor before segment)
      (accessor.step cursor before' segment') := by
  cases twin with
  | name label label' =>
    unfold step
    cases shape : cursor.value.unwrapped with
    | bean ref =>
      exact readName_alike told ref (same ref _ _ (Value.unwrapped_eq_bean_iff.1 shape) rfl rfl)
    | _ => exact unsupported_alike told (.name label label') _ _
  | key label quoted =>
    unfold step
    cases shape : cursor.value.unwrapped with
    | list items =>
      refine .bind_same (listIndex_alike told _ _) fun index => ?_
      split
      · exact .pure rfl
      · exact .throw (.invalidProperty _ _ told)
    | map entries => exact .pure rfl
    | _ => exact unsupported_alike told (.key label quoted) _ _

/-- The descriptors differ in how the path is written alone. -/
structure DescribesAlike (like : Likeness) (descriptor descriptor' : PropertyDescriptor) :
    Prop where
  property : like.texts descriptor.property descriptor'.property
  owner : descriptor.owner = descriptor'.owner
  type : descriptor.type = descriptor'.type
  isReadable : descriptor.isReadable = descriptor'.isReadable
  isWritable : descriptor.isWritable = descriptor'.isWritable

/-- A segment is described alike. -/
theorem describeStep_alike (told : like.texts (Segment.render (before ++ [segment]))
      (Segment.render (before' ++ [segment'])))
    (twin : segment.Twin segment') {cursor : Cursor}
    (same : accessor.SameOn cursor.value segment segment') :
    Alike like (DescribesAlike like) (accessor.describeStep cursor before segment)
      (accessor.describeStep cursor before' segment') := by
  have described (owner : TypeRef) (type : DeclaredType) (isReadable isWritable : Bool) :
      DescribesAlike like
        ⟨Segment.render (before ++ [segment]), owner, type, isReadable, isWritable⟩
        ⟨Segment.render (before' ++ [segment']), owner, type, isReadable, isWritable⟩ :=
    ⟨told, rfl, rfl, rfl, rfl⟩
  cases twin with
  | name label label' =>
    unfold describeStep
    cases shape : cursor.value.unwrapped with
    | bean ref =>
      dsimp only
      rw [same ref _ _ (Value.unwrapped_eq_bean_iff.1 shape) rfl rfl]
      split
      · exact .pure (described _ _ _ _)
      · exact .bind_same (handleCursor_alike _) fun _ => .pure (described _ _ _ _)
      · exact .throw (.invalidProperty _ _ told)
    | _ => exact unsupported_alike told (.name label label') _ _
  | key label quoted =>
    unfold describeStep
    cases shape : cursor.value.unwrapped with
    | list items =>
      exact .bind_same (listIndex_alike told _ _) fun _ => .pure (described _ _ _ _)
    | map entries => exact .pure (described _ _ _ _)
    | _ => exact unsupported_alike told (.key label quoted) _ _

/-! ## Rows of segments -/

/-- A row of segments is read in step with itself. -/
theorem ReadsTwins.refl (stands : ∀ segment, like.segments segment segment) (later : List Segment) :
    ∀ (world : World) (cursor : Cursor) (before : List Segment) (segment : Segment),
      accessor.ReadsTwins like world cursor before segment later segment later := by
  induction later with
  | nil => exact fun _ _ _ segment => .last (stands segment) (.refl accessor _ segment)
  | cons next later ih =>
    exact fun _ _ _ segment => .step (stands segment) (.refl accessor _ segment)
      fun cursor after _ _ => ih after cursor _ next

/-- The first segments stand for each other. -/
theorem ReadsTwins.twins {world : World} {cursor : Cursor} {later later' : List Segment}
    (twins : accessor.ReadsTwins like world cursor before segment later segment' later') :
    like.segments segment segment' := by
  cases twins with
  | last twins => exact twins
  | step twins => exact twins

/-- Segments that are read in step are walked alike up to the last. -/
theorem ReadsTwins.navigate {world other : World} {cursor : Cursor} {later later' : List Segment}
    (twins : accessor.ReadsTwins like world cursor before segment later segment' later')
    (rows : like.rows (before ++ [segment]) (before' ++ [segment']))
    (graph : world.SameGraph other) :
    RunsAlike like (accessor.ParentsAlike like)
      ((accessor.navigate cursor before segment later).runOn world)
      ((accessor.navigate cursor before' segment' later').runOn other) := by
  induction twins generalizing before' other with
  | last twins same => exact ⟨.ok ⟨rfl, like.told rows, like.twins twins, same⟩, graph⟩
  | @step world cursor before later later' segment segment' next next' twins same further ih =>
    have told := like.told rows
    simp only [Accessor.navigate]
    refine RunsAlike.bind (step_alike told (like.twins twins) same world other graph) ?_
    rintro cursor' _ left right stepped - rfl graph
    by_cases absent : cursor'.value.isAbsent
    · simp only [absent, ↓reduceIte, Access.throw_bind]
      exact ⟨.error (.nullValue _ told), graph⟩
    · simp only [absent, Bool.false_eq_true, ↓reduceIte]
      have present : cursor'.value.isAbsent = false := by simpa using absent
      have onward := like.onward rows (further _ _ stepped present).twins
      exact ih cursor' left stepped present onward graph

/-- Segments that are read in step are read alike. -/
theorem ReadsTwins.readFrom {world other : World} {cursor : Cursor} {later later' : List Segment}
    (twins : accessor.ReadsTwins like world cursor before segment later segment' later')
    (rows : like.rows (before ++ [segment]) (before' ++ [segment']))
    (graph : world.SameGraph other) :
    RunsAlike like Eq ((accessor.readFrom cursor before segment later).runOn world)
      ((accessor.readFrom cursor before' segment' later').runOn other) := by
  refine RunsAlike.bind (twins.navigate rows graph)
    fun parent parent' left right _ _ alike graph => ?_
  obtain ⟨cursor, told, twin, same⟩ := alike
  rw [← cursor]
  refine RunsAlike.bind (step_alike told twin same left right graph) ?_
  rintro cursor' _ left right - - rfl graph
  exact ⟨.ok rfl, graph⟩

/-- Segments that are read in step are described alike. -/
theorem ReadsTwins.describe {world other : World} {root : BeanRef} {path path' : PropertyPath}
    (twins : accessor.ReadsTwins like world (.root root) [] path.first path.later path'.first
      path'.later)
    (rows : like.rows [path.first] [path'.first]) (graph : world.SameGraph other) :
    RunsAlike like (DescribesAlike like) ((accessor.describe root path).runOn world)
      ((accessor.describe root path').runOn other) := by
  refine RunsAlike.bind (twins.navigate rows graph)
    fun parent parent' left right _ _ alike graph => ?_
  obtain ⟨cursor, told, twin, same⟩ := alike
  rw [← cursor]
  exact describeStep_alike told twin same left right graph

end

end PropertyGraph.Accessor
