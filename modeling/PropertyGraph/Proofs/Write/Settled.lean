import PropertyGraph.Proofs.Access.Settled
import PropertyGraph.Proofs.Read.Alike
import PropertyGraph.Proofs.Read.Observation
import PropertyGraph.Proofs.Write.Quiet

/-!
# Walks that are settled

What a walk without growth comes to, or how it fails, is settled by the cells that it reads: those
of the properties that the path goes on behind. Into a type handle it always fails, and the segments
settle how. Where it succeeds, the old value is settled too, by these cells and that of the last
name. Nothing of this depends on the beans that the path does not lead over.
-/
namespace PropertyGraph.Accessor

/-- On the bean that a row of segments leads to, the name is a property that can be read and shows
the cell. -/
def ShowsCell (accessor : Accessor) (schema : Schema) (world : World) (root : BeanRef)
    (front : List Segment) (label : String) (ref : BeanRef) (field : String) : Prop :=
  accessor.Leads world root front ref ∧ ∃ info type,
    accessor.capability? ref.type label = some (.property info) ∧ info.isReadable = true ∧
    schema.field? ref.type field = some type ∧ info.ShowsField ref.type field type

/-- A walk over the path reads the cell: a name that the path goes on behind shows it. -/
def ReadsCell (accessor : Accessor) (schema : Schema) (world : World) (root : BeanRef)
    (path : PropertyPath) (ref : BeanRef) (field : String) : Prop :=
  ∃ front label next later, path.segments = front ++ .name label :: next :: later ∧
    accessor.ShowsCell schema world root front label ref field

section

variable {accessor : Accessor} {request : WriteRequest} {schema : Schema} {world later : World}
  {root ref : BeanRef} {before : List Segment} {path : PropertyPath}

/-! ## Type handles -/

/-- What is read of a type handle is a text, the same for all handles of a type. -/
theorem enter_handle_settled (request : WriteRequest) (plain : accessor.registry.Plain schema)
    {label : String} {info : PropertyInfo}
    (names : accessor.capability? TypeHandle.type label = some (.property info))
    (readable : info.isReadable = true) (walked : List Segment) (described : TypeRef) :
    ∃ text, ∀ world ref, world.HasHandle ref described →
      (accessor.enter request walked ref info).runOn world = (.ok (.text text), world) := by
  obtain ⟨field, type, typed, shows⟩ := shows_of_capability? plain names
  obtain ⟨rfl, text, found⟩ := Schema.field?_handle typed described
  refine ⟨text, fun world ref handle => ?_⟩
  have shown : world.shown ref field = .text text := by
    simp [World.shown, handle.bean, Bean.fieldValue, found, Field.toValue, FieldType.toValue]
  have read := runOn_read (handle.type_eq ▸ shows) readable handle.has walked
  rw [handle.free, shown] at read
  exact runOn_enter_of_read read rfl

/-- The walk fails into every type handle that no guard is on, with one error for all handles of a
type. -/
def RefusesHandles (walk : Walk) : Prop :=
  ∀ declared owner described, ∃ error, ∀ world ref, world.Guarded →
    world.HasHandle ref described → (walk (.bean ref) declared owner).FailsWith world error

/-- A walk on behind the handle of a type fails with one error. -/
theorem RefusesHandles.behindHandle {walk : Walk} (refuses : RefusesHandles walk)
    (owner : TypeRef) :
    ∃ error, ∀ (world : World) (ref : BeanRef), world.Guarded →
      (handleCursor owner >>= fun handle => do
        let plan ← walk handle.value handle.declared owner
        return plan.behindHandle ref).FailsWith world error := by
  obtain ⟨error, fails⟩ := refuses (.bean TypeHandle.type) owner owner
  refine ⟨error, fun world ref guarded => ?_⟩
  have kept := World.EvolvesTo.of_add world (TypeHandle.bean owner)
  refine .bind_of_ok (runOn_handleCursor _ _) kept (.bind ?_ _)
  exact fails _ _ (guarded.mono kept.guards kept.has)
    (World.hasHandle_add guarded (.refl _ _) owner)

/-- No key leads into a type handle. -/
theorem planStep_key_refusesHandles (before : List Segment) (label : String) (quoted : Bool)
    (walk? : Option Walk) :
    RefusesHandles (accessor.planStep request before (.key label quoted) walk?) := by
  intro declared owner described
  refine ⟨.invalidProperty (Segment.render (before ++ [.key label quoted])) TypeHandle.type
    (.noElement .bean), fun world ref _ handle => ?_⟩
  simp only [planStep, Value.core, handle.type_eq]
  exact .throw _ _

/-- A walk into a type handle fails with an error that the segments alone settle. By induction on
the segments: a property of a handle is a text, of which nothing can be written, and the handle of a
handle is a handle again. -/
theorem planInto_refusesHandles (plain : accessor.registry.Plain schema) (later : List Segment) :
    ∀ (before : List Segment) (segment : Segment),
      RefusesHandles (accessor.planInto request before segment later) := by
  induction later with
  | nil =>
    intro before segment declared owner described
    cases segment with
    | key label quoted => exact planStep_key_refusesHandles before label quoted _ declared owner _
    | name label =>
      refine ⟨accessor.notWritable (before ++ [.name label]) TypeHandle.type label,
        fun world ref _ handle => ?_⟩
      simp only [planInto, planStep, Value.core, planLast, handle.type_eq]
      split
      · next info names =>
        have sealed := plain.handles _ _ (describe?_of_capability? names)
        simp only [sealed, Bool.false_eq_true, ↓reduceIte]
        exact .throw _ _
      · exact .throw _ _
  | cons next later ih =>
    intro before segment declared owner described
    cases segment with
    | key label quoted => exact planStep_key_refusesHandles before label quoted _ declared owner _
    | name label =>
      cases names : accessor.capability? TypeHandle.type label with
      | none =>
        refine ⟨.notReadable (Segment.render (before ++ [.name label])) TypeHandle.type,
          fun world ref _ handle => ?_⟩
        simp only [planInto, planStep, Value.core, planBelow, handle.type_eq, names]
        exact .throw _ _
      | some found =>
        cases found with
        | handle =>
          obtain ⟨error, fails⟩ := (ih (before ++ [.name label]) next).behindHandle TypeHandle.type
          refine ⟨error, fun world ref guarded handle => ?_⟩
          simp only [planInto, planStep, Value.core, planBelow, handle.type_eq, names]
          exact fails world ref guarded
        | property info =>
          by_cases readable : info.isReadable
          case neg =>
            refine ⟨.notReadable (Segment.render (before ++ [.name label])) TypeHandle.type,
              fun world ref _ handle => ?_⟩
            simp only [planInto, planStep, Value.core, planBelow, handle.type_eq, names, readable,
              Bool.false_eq_true, ↓reduceIte]
            exact .throw _ _
          obtain ⟨text, entered⟩ := enter_handle_settled request plain names readable
            (before ++ [.name label]) described
          refine ⟨unsupported (before ++ [.name label] ++ [next]) TypeHandle.type (.text text) next,
            fun world ref _ handle => ?_⟩
          simp only [planInto, planStep, Value.core, planBelow, handle.type_eq, names, readable,
            ↓reduceIte]
          refine .bind_of_ok (entered world ref handle) (.refl _ _) (.bind ?_ _)
          cases later <;> exact .throw _ world

/-! ## Walks -/

/-- Without growth, a walk on from a slot is settled if it is from the value of the slot. -/
theorem planSlot_settled (off : request.options.growNested = false) (walked : List Segment)
    (owner : TypeRef) (element : DeclaredType) (slot : Value) (rebuild : Value → Value)
    {walk? : Option Walk}
    (settled : ∀ walk, walk? = some walk → slot.isAbsent = false →
      (walk slot element owner).SettledOn world later) :
    (accessor.planSlot request walked owner element slot rebuild walk?).SettledOn world later := by
  cases walk? with
  | none => exact .pure _ _ _
  | some walk =>
    simp only [planSlot, enterSlot_quiet off]
    by_cases absent : slot.isAbsent
    · simp only [absent, ↓reduceIte, Access.throw_bind]
      exact .throw _ _ _
    · simp only [absent, Bool.false_eq_true, ↓reduceIte, pure_bind]
      exact .bind (settled walk rfl (by simpa using absent)) fun _ _ => .pure _ _ _

/-- The property of a name that ends the path is not read. -/
theorem planLast_settled (walked : List Segment) (ref : BeanRef) (label : String) :
    (accessor.planLast walked ref label).SettledOn world later := by
  unfold planLast
  split
  · split
    · exact .pure _ _ _
    · exact .throw _ _ _
  · exact .throw _ _ _

/-- Without growth, a walk on behind a name is settled by the cell of its property, if it is from
the value of the property. -/
theorem planBelow_settled (plain : accessor.registry.Plain schema) (fits : schema.Fits world)
    (guarded : world.Guarded) (off : request.options.growNested = false)
    {cells : BeanRef → String → Prop} (agrees : world.MatchesOn cells later) {label : String}
    {walk : Walk} {holder : Value} (core : holder.core = .bean ref) (has : world.Has ref)
    (arrives : accessor.Arrives world root before holder)
    (reads : ∀ field, accessor.ShowsCell schema world root before label ref field →
      cells ref field)
    (settled : ∀ child declared owner, world.Admits child →
      accessor.Arrives world root (before ++ [.name label]) child →
      (walk child declared owner).SettledOn world later)
    (refuses : RefusesHandles walk) :
    (accessor.planBelow request (before ++ [.name label]) ref label walk).SettledOn world
      later := by
  unfold planBelow
  cases names : accessor.capability? ref.type label with
  | none => exact .throw _ _ _
  | some found =>
    cases found with
    | handle =>
      obtain ⟨error, fails⟩ := refuses.behindHandle ref.type
      exact .inr ⟨error, fails world ref guarded,
        fails later ref (guarded.mono agrees.guards agrees.has)⟩
    | property info =>
      by_cases readable : info.isReadable
      case neg =>
        simp only [readable, Bool.false_eq_true, ↓reduceIte]
        exact .throw _ _ _
      simp only [readable, ↓reduceIte]
      obtain ⟨field, type, typed, shows⟩ := shows_of_capability? plain names
      obtain ⟨_, -, -, admitted⟩ := fits.shown has typed
      have among : cells ref field :=
        reads field ⟨arrives.leads core, info, type, names, readable, typed, shows⟩
      refine (enter_settled accessor off shows readable has agrees among _).bind
        fun child entered => ?_
      obtain ⟨rfl, -, read⟩ := enters_quiet off shows readable has entered
      exact .bind (settled _ _ _ admitted (arrives.name core names readable read))
        fun _ _ => .pure _ _ _

/-- Without growth, a step is settled by the cell of the property that it goes on behind, and by
the walk on from there. -/
theorem planStep_settled (plain : accessor.registry.Plain schema) (fits : schema.Fits world)
    (guarded : world.Guarded) (off : request.options.growNested = false)
    {cells : BeanRef → String → Prop} (agrees : world.MatchesOn cells later) {segment : Segment}
    {walk? : Option Walk} {holder : Value} (declared : DeclaredType) (owner : TypeRef)
    (admitted : world.Admits holder)
    (arrives : accessor.Arrives world root before holder)
    (reads : walk?.isSome → ∀ label ref field, segment = .name label →
      accessor.ShowsCell schema world root before label ref field → cells ref field)
    (settled : ∀ walk, walk? = some walk → ∀ child declared owner, world.Admits child →
      accessor.Arrives world root (before ++ [segment]) child →
      (walk child declared owner).SettledOn world later)
    (refuses : ∀ walk, walk? = some walk → RefusesHandles walk) :
    (accessor.planStep request before segment walk? holder declared owner).SettledOn world
      later := by
  have inside := admitted.core
  simp only [planStep]
  split
  case h_1 ref label core =>
    cases walk? with
    | none => exact planLast_settled _ _ _
    | some walk =>
      exact planBelow_settled plain fits guarded off agrees core (core ▸ inside).has arrives
        (reads rfl label ref · rfl) (settled walk rfl) (refuses walk rfl)
  case h_2 => exact .throw _ _ _
  case h_3 items key quoted core =>
    simp only [listIndex]
    split
    · next index isIndex =>
      simp only [pure_bind, extendTo_quiet off]
      split
      · next bounded =>
        simp only [pure_bind, List.getElem?_eq_getElem bounded, Option.getD_some]
        have found : holder.slot? (.key key quoted) = some items[index] := by
          simp [Value.slot?, core, isIndex, bounded]
        exact planSlot_settled off _ _ _ _ _ fun walk isWalk _ =>
          settled walk isWalk _ _ _ (admitted.slot? found) (arrives.key found)
      · exact .throw _ _ _
    · exact .throw _ _ _
  case h_4 entries key quoted core =>
    refine planSlot_settled off _ _ _ _ _ fun walk isWalk present => ?_
    cases isEntry : Entries.find? key entries with
    | none => simp [isEntry, Value.isAbsent] at present
    | some slot =>
      have found : holder.slot? (.key key quoted) = some slot := by
        simp [Value.slot?, core, isEntry]
      exact settled walk isWalk _ _ _ (admitted.slot? found) (arrives.key found)
  case h_5 => exact .throw _ _ _

/-- A walk without growth is settled by the cells that it reads. By induction on the segments; what
is before them has been read from the root. -/
theorem planInto_settled (plain : accessor.registry.Plain schema) (fits : schema.Fits world)
    (guarded : world.Guarded) (off : request.options.growNested = false)
    (agrees : world.MatchesOn (accessor.ReadsCell schema world root path) later)
    (rest : List Segment) :
    ∀ (before : List Segment) (segment : Segment) (holder : Value) (declared : DeclaredType)
      (owner : TypeRef), path.segments = before ++ segment :: rest → world.Admits holder →
      accessor.Arrives world root before holder →
      (accessor.planInto request before segment rest holder declared owner).SettledOn world
        later := by
  induction rest with
  | nil =>
    intro before segment holder declared owner _ admitted arrives
    exact planStep_settled plain fits guarded off agrees declared owner admitted arrives
      (by simp) (by simp) (by simp)
  | cons next rest ih =>
    intro before segment holder declared owner split admitted arrives
    refine planStep_settled plain fits guarded off agrees declared owner admitted arrives ?_ ?_ ?_
    · rintro - label ref field rfl shows
      exact ⟨before, label, next, rest, split, shows⟩
    · rintro _ ⟨⟩ child declared owner admitted arrives
      exact ih _ _ _ _ _ (by simpa using split) admitted arrives
    · rintro _ ⟨⟩
      exact planInto_refusesHandles plain rest _ _

/-! ## Reads -/

/-- A key is settled whatever the cells hold. -/
theorem step_key_settled (cursor : Cursor) (before : List Segment) (key : String) (quoted : Bool) :
    (accessor.step cursor before (.key key quoted)).SettledOn world later := by
  unfold step
  cases cursor.value.unwrapped with
  | list items =>
    dsimp only
    unfold listIndex
    split
    · rw [pure_bind]
      split
      · exact .pure _ _ _
      · exact .throw _ _ _
    · exact .throw _ _ _
  | map entries => exact .pure _ _ _
  | _ => exact .throw _ _ _

/-- A property is settled by the cell that it shows. -/
theorem readName_settled {info : PropertyInfo} {label : String} {cells : BeanRef → String → Prop}
    (names : accessor.capability? ref.type label = some (.property info)) (has : world.Has ref)
    (agrees : world.MatchesOn cells later) {field : String} {type : FieldType}
    (shows : info.ShowsField ref.type field type)
    (among : info.isReadable = true → cells ref field) (walked : List Segment) :
    (accessor.readName walked ref label).SettledOn world later := by
  simp only [readName, names]
  split
  case isTrue readable =>
    exact .bind (read_settled shows readable has agrees (among readable) walked) fun _ _ =>
      .pure _ _ _
  case isFalse => exact .throw _ _ _

/-- A read of one segment is settled as its step is. -/
theorem readFrom_settled_last {cursor : Cursor} {segment : Segment}
    (settled : (accessor.step cursor before segment).SettledOn world later) :
    (accessor.readFrom cursor before segment []).SettledOn world later := by
  simp only [readFrom, navigate, pure_bind]
  exact settled.bind fun _ _ => .pure _ _ _

/-- A read is settled if its first step is, and the read on from there. -/
theorem readFrom_settled_cons {cursor : Cursor} {segment next : Segment} {rest : List Segment}
    (settled : (accessor.step cursor before segment).SettledOn world later)
    (further : ∀ reached, (accessor.step cursor before segment).runOn world = (.ok reached, world) →
      (accessor.readFrom reached (before ++ [segment]) next rest).SettledOn world later) :
    (accessor.readFrom cursor before segment (next :: rest)).SettledOn world later := by
  simp only [readFrom, navigate, bind_assoc]
  refine settled.bind fun reached stepped => ?_
  by_cases absent : reached.value.isAbsent
  · simp only [absent, ↓reduceIte, Access.throw_bind]
    exact .throw _ _ _
  · simp only [absent, Bool.false_eq_true, ↓reduceIte]
    exact further reached stepped

/-- Where a walk succeeds, a read along the same segments is settled by the cells of all properties
on the way, the last one included. By induction on the walk, on which every name is a property. -/
theorem Walks.readFrom_settled (plain : accessor.registry.Plain schema) (fits : schema.Fits world)
    (off : request.options.growNested = false) {cells : BeanRef → String → Prop}
    (agrees : world.MatchesOn cells later) {segments : List Segment} {holder : Value}
    {declared : DeclaredType} {owner : TypeRef} {plan : Plan} {after : World}
    (walks : accessor.Walks request world before segments holder declared owner plan after)
    (admitted : world.Admits holder) (arrives : accessor.Arrives world root before holder)
    (among : ∀ front label rest ref field, segments = front ++ .name label :: rest →
      accessor.ShowsCell schema world root (before ++ front) label ref field → cells ref field)
    {cursor : Cursor} (same : cursor.value = holder) {first : Segment} {rest : List Segment}
    (split : segments = first :: rest) :
    (accessor.readFrom cursor before first rest).SettledOn world later := by
  induction walks generalizing cursor first rest with
  | property world before label holder declared owner ref info core names writable =>
    obtain ⟨rfl, rfl⟩ := List.cons.inj split
    obtain ⟨field, type, typed, shows⟩ := shows_of_capability? plain names
    refine readFrom_settled_last ?_
    simp only [step, Value.unwrapped_eq_bean_iff.2 (same ▸ core)]
    refine readName_settled names (core ▸ admitted.core).has agrees shows (fun readable => ?_) _
    exact among [] label [] ref field rfl
      ⟨by simpa using arrives.leads core, info, type, names, readable, typed, shows⟩
  | throughProperty world middle after before label next later holder child declared owner ref info
      plan core names readable enters walks ih =>
    obtain ⟨rfl, rfl⟩ := List.cons.inj split
    obtain ⟨field, type, typed, shows⟩ := shows_of_capability? plain names
    have has : world.Has ref := (core ▸ admitted.core).has
    obtain ⟨rfl, rfl, read⟩ := enters_quiet off shows readable has enters
    have cell : cells ref field := among [] label _ ref field rfl
      ⟨by simpa using arrives.leads core, info, type, names, readable, typed, shows⟩
    refine readFrom_settled_cons ?_ fun reached stepped => ?_
    · simp only [step, Value.unwrapped_eq_bean_iff.2 (same ▸ core)]
      exact readName_settled names has agrees shows (fun _ => cell) _
    · simp only [step, Value.unwrapped_eq_bean_iff.2 (same ▸ core), readName, names, readable,
        ↓reduceIte, Access.runOn_bind_of_ok read, Access.runOn_pure, Prod.mk.injEq, Except.ok.injEq,
        and_true] at stepped
      obtain ⟨_, -, -, admitted'⟩ := fits.shown has typed
      refine ih fits agrees admitted' (arrives.name core names readable read) ?_ (stepped ▸ rfl) rfl
      intro front label' rest ref' field' split shows'
      exact among (.name label :: front) label' rest ref' field' (by rw [split]; rfl)
        (by simpa using shows')
  | slot world middle before segment holder slot rebuild declared owner opens =>
    obtain ⟨rfl, rfl⟩ := List.cons.inj split
    cases opens <;> exact readFrom_settled_last (step_key_settled _ _ _ _)
  | throughSlot world middle entered after before segment next later holder slot child rebuild
      declared owner plan opens enters walks ih =>
    obtain ⟨rfl, rfl⟩ := List.cons.inj split
    obtain ⟨rfl, kept⟩ := opens.quiet off admitted
    rw [enterSlot_quiet off] at enters
    split at enters
    case isTrue => simp at enters
    case isFalse present =>
      obtain ⟨rfl, rfl⟩ : slot = child ∧ middle = entered := by simpa using enters
      obtain ⟨found, -⟩ := kept (by simpa using present)
      refine readFrom_settled_cons ?_ fun reached stepped => ?_
      · cases opens <;> exact step_key_settled _ _ _ _
      · rw [runOn_step_key (same ▸ found)] at stepped
        obtain rfl : cursor.element slot = reached := by simpa using stepped
        refine ih fits agrees (admitted.slot? found) (arrives.key found) ?_ rfl rfl
        intro front label' rest ref' field' split shows'
        exact among (segment :: front) label' rest ref' field' (by rw [split]; rfl)
          (by simpa using shows')

/-- Reading the old value of a path of properties that show fields never fails. -/
theorem oldValue_runs (plain : accessor.registry.Plain schema) (options : AccessOptions)
    (root : BeanRef) (path : PropertyPath) (world : World) :
    ∃ middle, (accessor.oldValue options root path).runOn world =
        (.ok (if options.extractOldValue then ((accessor.get root path).runOn world).1.toOption
          else none), middle) ∧ world.EvolvesTo [] middle :=
  oldValue_runs_of_evolves (get_keeps plain root path world) options

end

end PropertyGraph.Accessor
