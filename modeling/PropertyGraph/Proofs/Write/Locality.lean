import PropertyGraph.Proofs.Read.Declared
import PropertyGraph.Proofs.Write.Outcome
import PropertyGraph.Proofs.Write.Settled

/-!
# Writes are local

A write without growth reads the cells of the properties that its path goes on behind, and stores
the raw value in the cell of the last name. What it gives and what it does to the beans is settled
by these cells alone: on every world that agrees on them it has the same outcome and makes the same
patch. That patch tells the cell that is written, and it gives back what was read to the collections
on the way.
-/
namespace PropertyGraph

/-- Run on worlds that match the world on the cells that it reads and writes, the access has one
outcome and makes one patch of these cells. -/
def Access.LocalOn {α : Type} (access : Access α) (world : World)
    (reads writes : BeanRef → String → Prop) : Prop :=
  ∃ outcome patch, patch.Within world reads writes ∧
    access.PatchesOn world (fun ref field => reads ref field ∨ writes ref field) outcome patch

namespace Accessor

/-- Writing the raw value at the path stores it in the cell: a property that the last name leads to
shows the cell, and it takes what is written from that name on. -/
def WritesCell (accessor : Accessor) (schema : Schema) (world : World) (root : BeanRef)
    (options : AccessOptions) (path : PropertyPath) (raw : Value) (ref : BeanRef)
    (field : String) : Prop :=
  ∃ target : accessor.Target schema world root path, target.ref = ref ∧ target.field = field ∧
    ∃ written after, (accessor.writeInto ⟨raw, options⟩ target.front (.name target.label)
      target.keys (.bean target.ref) (.bean target.ref.type) target.ref.type).runOn world =
        (.ok written, after)

section

variable {accessor : Accessor} {request : WriteRequest} {schema : Schema} {world later : World}
  {root ref : BeanRef} {before : List Segment} {path : PropertyPath}

/-! ## The end of a walk -/

/-- A walk without growth leaves the world as it is. -/
theorem Walks.quiet (plain : accessor.registry.Plain schema) (fits : schema.Fits world)
    (off : request.options.growNested = false) {segments : List Segment} {holder : Value}
    {declared : DeclaredType} {owner : TypeRef} {plan : Plan} {after : World}
    (walks : accessor.Walks request world before segments holder declared owner plan after)
    (admitted : world.Admits holder) {segment : Segment} {rest : List Segment}
    (split : segments = segment :: rest) : after = world := by
  have done := walks.run split
  rcases planInto_quiet plain fits off rest before segment holder declared owner admitted with
    ⟨_, quiet⟩ | ⟨_, _, failed, -⟩
  · exact (Prod.mk.inj (done.symm.trans quiet)).2
  · simp [failed] at done

/-- The end of a successful walk, from the last name on, is planned for alone: with the same type
for the raw value, and with the first of the values that are put. -/
theorem Walks.tail (plain : accessor.registry.Plain schema) (fits : schema.Fits world)
    (off : request.options.growNested = false) {segments : List Segment} {holder : Value}
    {declared : DeclaredType} {owner : TypeRef} {plan : Plan} {after : World}
    (walks : accessor.Walks request world before segments holder declared owner plan after)
    (admitted : world.Admits holder) {front keys : List Segment} {label : String}
    (split : segments = front ++ .name label :: keys)
    (isKey : ∀ segment ∈ keys, segment.isName = false) :
    ∃ (ref : BeanRef) (tail : Plan) (put : Value → Put),
      (accessor.planInto request (before ++ front) (.name label) keys (.bean ref) (.bean ref.type)
        ref.type).runOn world = (.ok tail, world) ∧
      tail.target = plan.target ∧ (∀ value, tail.puts value = [put value]) ∧
      ∀ value, (put value).ref = ref ∧ ∃ pending, plan.puts value = put value :: pending := by
  induction walks generalizing front with
  | property world before label' holder declared owner ref info core names writable =>
    obtain ⟨rfl, rfl, rfl⟩ : front = [] ∧ label' = label ∧ keys = [] := by
      cases front <;> simp_all
    have whole : accessor.Walks request world before [.name label'] holder declared owner _ world :=
      .property world before label' holder declared owner ref info core names writable
    have run := whole.run rfl
    rw [planInto_bean core] at run
    exact ⟨ref, _, _, by simpa using run, rfl, fun _ => rfl, fun _ => ⟨rfl, [], rfl⟩⟩
  | throughProperty world middle after before label' next later holder child declared owner ref info
      plan core names readable enters walks ih =>
    have whole := Walks.throughProperty world middle after before label' next later holder child
      declared owner ref info plan core names readable enters walks
    have has : world.Has ref := (core ▸ admitted.core).has
    obtain ⟨field, type, typed, shows⟩ := shows_of_capability? plain names
    obtain ⟨_, -, -, admitted'⟩ := fits.shown has typed
    cases front with
    | nil =>
      obtain ⟨rfl, rfl⟩ : label' = label ∧ next :: later = keys := by simpa using split
      obtain ⟨noPuts, copy, copies, -⟩ := walks.copy_of_keys isKey
      have run := whole.run rfl
      rw [planInto_bean core, whole.quiet plain fits off admitted rfl] at run
      refine ⟨ref, _, fun value => ⟨before ++ [.name label'], ref, info, copy value⟩,
        by simpa using run, rfl, fun value => ?_, fun value => ⟨rfl, [], ?_⟩⟩
      all_goals simp [Plan.behindProperty, noPuts, copies]
    | cons first front =>
      obtain ⟨rfl, further⟩ : .name label' = first ∧
        next :: later = front ++ .name label :: keys := by simpa using split
      obtain ⟨rfl, rfl, -⟩ := enters_quiet off shows readable has enters
      obtain ⟨target, tail, put, run, sameType, only, puts⟩ := ih fits admitted' further
      refine ⟨target, tail, put, by simpa using run, sameType, only, fun value => ?_⟩
      obtain ⟨sameRef, pending, begins⟩ := puts value
      exact ⟨sameRef, _, by simp only [Plan.behindProperty, begins, List.cons_append]; rfl⟩
  | slot world middle before segment holder slot rebuild declared owner opens =>
    obtain rfl : segment = .name label := by cases front <;> simp_all
    cases opens
  | throughSlot world middle entered after before segment next later holder slot child rebuild
      declared owner plan opens enters walks ih =>
    obtain ⟨rfl, kept⟩ := opens.quiet off admitted
    rw [enterSlot_quiet off] at enters
    split at enters
    case isTrue => simp at enters
    case isFalse present =>
      obtain ⟨rfl, rfl⟩ : slot = child ∧ middle = entered := by simpa using enters
      obtain ⟨found, -⟩ := kept (by simpa using present)
      cases front with
      | nil =>
        obtain ⟨rfl, -⟩ := List.cons.inj split
        cases opens
      | cons first front =>
        obtain ⟨rfl, further⟩ : segment = first ∧ next :: later = front ++ .name label :: keys := by
          simpa using split
        obtain ⟨target, tail, put, run, sameType, only, puts⟩ :=
          ih fits (admitted.slot? found) further
        exact ⟨target, tail, put, by simpa using run, sameType, only, puts⟩

/-! ## Putting back -/

/-- What is put back was read: the path goes on behind the property. -/
theorem PutsBack.readsCell {put : Put} {front keys : List Segment} {label field : String}
    (putsBack : accessor.PutsBack world root [] front put)
    (segments : path.segments = front ++ .name label :: keys)
    (leads : accessor.Leads world root front ref) {other : BeanRef}
    (touches : Touches schema put other field) :
    accessor.ReadsCell schema world root path other field := by
  obtain ⟨rfl, type, typed, shows⟩ := touches
  obtain ⟨front', label', key, quoted, rest, rfl, -, leads', names⟩ := putsBack.passes
  refine ⟨front', label', .key key quoted, rest ++ .name label :: keys, by simp [segments],
    leads', put.info, type, names, ?_, typed, shows⟩
  -- The bean that the segments before the name lead to is the one that the name was read of.
  obtain ⟨_, comes, -⟩ := leads.comesTo
  obtain ⟨_, _, further, -⟩ :=
    comes.of_append (List.append_cons front' (.name label') (.key key quoted :: rest))
  obtain ⟨cursor, _, comesFront, -, stepped⟩ := further.of_concat
  obtain ⟨cursor', comesFront', isBean⟩ := Leads.comesTo leads'
  obtain ⟨rfl, rfl⟩ := comesFront.unique comesFront'
  cases takes_of_step stepped with
  | property ref' label' info value _ isBean' names' readable =>
    obtain rfl : ref' = put.ref := by simpa [isBean'] using isBean
    obtain rfl : put.info = info := by simpa [names] using names'
    exact readable
  | handle ref' label' isBean' names' =>
    obtain rfl : ref' = put.ref := by simpa [isBean'] using isBean
    simp [names] at names'

/-- A row of values that are put back makes one patch on all worlds with the same guards, which
gives the cells what they held. -/
theorem putAll_patches (derived : accessor.registry.Derived schema) (fits : schema.Fits world)
    {front : List Segment} {reads writes : BeanRef → String → Prop} (pending : List Put)
    (putsBack : ∀ put ∈ pending, accessor.PutsBack world root before front put)
    (isRead : ∀ put ∈ pending, ∀ ref field, Touches schema put ref field → reads ref field) :
    ∃ outcome patch, patch.Within world reads writes ∧
      (putAll pending).PatchesOn world noCell outcome patch := by
  induction pending with
  | nil => exact ⟨.ok (), .empty, .empty, .mk_pure _ _ _⟩
  | cons put pending ih =>
    have head := putsBack put List.mem_cons_self
    obtain ⟨_, label, _, _, _, -, -, -, names⟩ := head.passes
    obtain ⟨field, type, typed, isField⟩ :=
      derived.isField _ _ _ (describe?_of_capability? names)
    rcases putBack_patches isField head.has put.walked put.value with
      ⟨content, stores⟩ | ⟨error, refused⟩
    · obtain ⟨outcome, patch, within, runs⟩ :=
        ih (fun other among => putsBack other (List.mem_cons_of_mem _ among))
          fun other among => isRead other (List.mem_cons_of_mem _ among)
      have touched : reads put.ref field :=
        isRead put List.mem_cons_self _ _ ⟨rfl, type, typed, isField.toShowsField⟩
      have found : world.cell? put.ref field = some ⟨type, content⟩ := by
        obtain ⟨after, run, patched⟩ := stores world (.refl _ _)
        rcases head.run fits typed isField.toShowsField head.has with
          ⟨old, found, stored⟩ | ⟨_, -, failed⟩
        · obtain rfl : after = world.store put.ref field old :=
            (Prod.mk.inj (run.symm.trans stored)).2
          have cell := patched.cell put.ref field head.has
          simp only [World.cell?_store head.has head.has, Patch.single, and_self, ↓reduceIte,
            Option.some_or] at cell
          rw [found, cell]
        · simp [run] at failed
      exact ⟨outcome, _, .andThen (.of_reads touched found) within, stores.bind runs⟩
    · exact ⟨.error error, .empty, .empty, refused.bind_error _⟩

/-! ## Writes -/

variable {options : AccessOptions} {raw : Value}

/-- The end of the path alone, from the last name on, does what is put into the property of that
name. -/
theorem QuietPlan.runOn_writeInto (plain : accessor.registry.Plain schema)
    (fits : schema.Fits world) (has : world.Has root) (off : options.growNested = false)
    {front keys : List Segment} {label : String}
    (segments : path.segments = front ++ .name label :: keys)
    (isKey : ∀ segment ∈ keys, segment.isName = false) {plan : Plan} {info : PropertyInfo}
    {rebuild : Value → Value} {pending : List Put}
    (quiet : accessor.QuietPlan world root [] (.bean root) front label keys plan ref info rebuild
      pending)
    (walks : accessor.Walks ⟨raw, options⟩ world [] path.segments (.bean root) (.bean root.type)
      root.type plan world) {value : Value}
    (converted : convertTo accessor.converter raw plan.target = .ok value) {after : World}
    (stored : (putBack (front ++ [.name label]) ref info (rebuild value)).runOn world =
      (.ok (), after)) :
    ∃ written, (accessor.writeInto ⟨raw, options⟩ front (.name label) keys (.bean ref)
      (.bean ref.type) ref.type).runOn world = (.ok written, after) := by
  obtain ⟨ref', tail, put, run, sameType, only, begins⟩ :=
    walks.tail plain fits off (.bean root has) segments isKey
  obtain ⟨rfl, rest, puts⟩ := begins value
  have same : put value = ⟨front ++ [.name label], ref, info, rebuild value⟩ :=
    (List.cons.inj (puts.symm.trans (quiet.puts value))).1
  have planned : (accessor.planInto ⟨raw, options⟩ front (.name label) keys (.bean ref)
      (.bean ref.type) ref.type).runOn world = (.ok tail, world) := by
    rw [same] at run
    exact run
  have accepted : (accessor.convertRaw tail.walked raw tail.target).runOn world =
      (.ok value, world) := by
    simp [convertRaw, sameType, converted]
  have carried : (putAll (tail.puts value)).runOn world = (.ok (), after) := by
    rw [only, same]
    exact (Access.runOn_bind_of_ok stored _).trans rfl
  refine ⟨⟨value, tail.copy?.map (· value)⟩, ?_⟩
  rw [writeInto_eq_plan, Access.runOn_bind_of_ok planned, carryOut,
    Access.runOn_bind_of_ok accepted, Access.runOn_bind_of_ok carried, Access.runOn_pure]

/-- What is put into the property of the last name is written. -/
theorem QuietPlan.writesCell (plain : accessor.registry.Plain schema) (fits : schema.Fits world)
    (has : world.Has root) (off : options.growNested = false) {front keys : List Segment}
    {label : String} (segments : path.segments = front ++ .name label :: keys)
    (isKey : ∀ segment ∈ keys, segment.isName = false) {plan : Plan} {info : PropertyInfo}
    {rebuild : Value → Value} {pending : List Put}
    (quiet : accessor.QuietPlan world root [] (.bean root) front label keys plan ref info rebuild
      pending)
    (walks : accessor.Walks ⟨raw, options⟩ world [] path.segments (.bean root) (.bean root.type)
      root.type plan world) {value : Value}
    (converted : convertTo accessor.converter raw plan.target = .ok value) {after : World}
    (stored : (putBack (front ++ [.name label]) ref info (rebuild value)).runOn world =
      (.ok (), after)) {field : String} {type : FieldType}
    (typed : schema.field? ref.type field = some type)
    (shows : info.ShowsField ref.type field type) :
    accessor.WritesCell schema world root options path raw ref field := by
  obtain ⟨written, run⟩ :=
    quiet.runOn_writeInto plain fits has off segments isKey walks converted stored
  exact ⟨⟨front, label, keys, ref, info, field, type, segments, isKey, quiet.leads, quiet.has,
    quiet.names, typed, shows⟩, rfl, rfl, written, after, run⟩

/-- What a walk has planned makes one patch wherever the guards are the same. If the first value is
put, the cell of the last name is written. -/
theorem QuietPlan.putAll_patches (derived : accessor.registry.Derived schema)
    (fits : schema.Fits world) {front keys : List Segment} {label : String}
    (segments : path.segments = front ++ .name label :: keys) {plan : Plan} {info : PropertyInfo}
    {rebuild : Value → Value} {pending : List Put}
    (quiet : accessor.QuietPlan world root [] (.bean root) front label keys plan ref info rebuild
      pending) (value : Value)
    (writes : ∀ after, (putBack (front ++ [.name label]) ref info (rebuild value)).runOn world =
      (.ok (), after) → ∀ field type, schema.field? ref.type field = some type →
        info.ShowsField ref.type field type →
        accessor.WritesCell schema world root options path raw ref field) :
    ∃ outcome patch,
      patch.Within world (accessor.ReadsCell schema world root path)
        (accessor.WritesCell schema world root options path raw) ∧
      (putAll (plan.puts value)).PatchesOn world noCell outcome patch ∧
      (outcome = .ok () → ∀ field type, schema.field? ref.type field = some type →
        info.ShowsField ref.type field type →
        accessor.WritesCell schema world root options path raw ref field) := by
  obtain ⟨field, type, typed, isField⟩ :=
    derived.isField _ _ _ (describe?_of_capability? quiet.names)
  rw [quiet.puts]
  rcases putBack_patches isField quiet.has (front ++ [.name label]) (rebuild value) with
    ⟨content, stores⟩ | ⟨error, refused⟩
  · have isWritten : ∀ field type, schema.field? ref.type field = some type →
        info.ShowsField ref.type field type →
        accessor.WritesCell schema world root options path raw ref field := by
      obtain ⟨after, stored, -⟩ := stores world (.refl _ _)
      exact writes after stored
    obtain ⟨outcome, patch, within, runs⟩ :=
      Accessor.putAll_patches derived fits pending quiet.putsBack
        fun put among _ _ touches =>
          (quiet.putsBack put among).readsCell segments quiet.leads touches
    exact ⟨outcome, _, .andThen (.of_writes (isWritten field type typed isField.toShowsField) _)
      within, stores.bind runs, fun _ => isWritten⟩
  · exact ⟨.error error, .empty, .empty, refused.bind_error _, by simp⟩

/-- The name that ends a row of segments is its last name. -/
theorem last_name_unique {front front' keys : List Segment} {label label' : String}
    (isKey : ∀ segment ∈ keys, segment.isName = false)
    (same : front ++ .name label :: keys = front' ++ [.name label']) :
    front = front' ∧ label = label' := by
  rcases keys.eq_nil_or_concat with rfl | ⟨keys, last, rfl⟩
  · simpa using List.append_inj' same rfl
  · rw [List.concat_eq_append, ← List.cons_append, ← List.append_assoc] at same
    obtain ⟨-, last_eq⟩ := List.append_inj' same rfl
    obtain rfl : last = .name label' := by simpa using last_eq
    exact absurd (isKey (.name label') (by simp)) (by simp [Segment.isName])

/-- A write at a path is settled by the cells that it reads. If it succeeds, a read along the path
is settled by these and by those that it writes. -/
theorem writePath_patches (derived : accessor.registry.Derived schema) (fits : schema.Fits world)
    (guarded : world.Guarded) (has : world.Has root) (off : options.growNested = false)
    (path : PropertyPath) (raw : Value) :
    ∃ outcome patch,
      patch.Within world (accessor.ReadsCell schema world root path)
        (accessor.WritesCell schema world root options path raw) ∧
      (accessor.writePath options root path raw).PatchesOn world
        (accessor.ReadsCell schema world root path) outcome patch ∧
      ((∃ value, outcome = .ok value) → ∀ later,
        world.MatchesOn (fun ref field => accessor.ReadsCell schema world root path ref field ∨
          accessor.WritesCell schema world root options path raw ref field) later →
        (accessor.get root path).SettledOn world later) := by
  have plain := derived.plain
  have walked : (accessor.planPath ⟨raw, options⟩ root path).PatchesOn world
      (accessor.ReadsCell schema world root path) _ .empty :=
    .of_settled fun later agrees => planInto_settled plain fits guarded off agrees path.later []
      path.first (.bean root) _ _ rfl (.bean root has) .at_root
  have quiet : (accessor.planPath ⟨raw, options⟩ root path).QuietOn world :=
    planInto_quiet plain fits off path.later [] path.first (.bean root) _ _ (.bean root has)
  simp only [writePath_eq_plan]
  rcases quiet with ⟨plan, planned⟩ | ⟨error, last, failed, -⟩
  · rw [planned] at walked
    have walks : accessor.Walks ⟨raw, options⟩ world [] path.segments (.bean root)
        (.bean root.type) root.type plan world :=
      planInto_walks plain path.later [] path.first _ _ _ _ _ _ planned
    obtain ⟨front, label, keys, segments, isKey⟩ := exists_last_name path.segments
      ⟨path.first, List.mem_cons_self, walks.isName rfl⟩
    obtain ⟨ref, info, rebuild, pending, quiet⟩ := walks.quietPlan plain fits off (.refl _ _)
      (.bean root has) .at_root front label keys segments isKey
    have accepted : (accessor.convertRaw plan.walked raw plan.target).PatchesOn world noCell _
        .empty :=
      .mk_pure _ _ _
    cases converted : convertTo accessor.converter raw plan.target with
    | error cause =>
      rw [converted] at accepted
      exact ⟨.error (.typeMismatch (Segment.render plan.walked) cause), _, .andThen .empty .empty,
        walked.bind (accepted.bind_error _), by simp⟩
    | ok value =>
      rw [converted] at accepted
      obtain ⟨outcome, patch, within, runs, isWritten⟩ := quiet.putAll_patches derived fits segments
        value fun after stored field type typed shows =>
          quiet.writesCell plain fits has off segments isKey walks converted stored typed shows
      cases outcome with
      | error error =>
        exact ⟨_, _, .andThen .empty (.andThen .empty within),
          walked.bind (accepted.bind (runs.bind_error _)), by simp⟩
      | ok done =>
        refine ⟨.ok value, _, .andThen .empty (.andThen .empty (.andThen within .empty)),
          walked.bind (accepted.bind (runs.bind (.mk_pure _ _ _))), fun _ later agrees => ?_⟩
        refine walks.readFrom_settled plain fits off agrees (.bean root has) .at_root ?_ rfl rfl
        rintro front' label' (_ | ⟨next, rest⟩) ref' field' split shows
        · obtain ⟨rfl, rfl⟩ := last_name_unique isKey (segments.symm.trans split)
          obtain ⟨leads, info', type', names, -, typed, shows⟩ := shows
          obtain rfl : ref = ref' := quiet.leads.unique leads
          obtain rfl : info = info' := by simpa [quiet.names] using names
          exact .inr (isWritten rfl field' type' typed shows)
        · exact .inl ⟨front', label', next, rest, split, shows⟩
  · rw [failed] at walked
    exact ⟨.error error, .empty, .empty, walked.bind_error _, by simp⟩

/-- A write is local to the cells that it reads and writes, with the old value or without. A write
that fails tells no old value. -/
theorem setWith_local (derived : accessor.registry.Derived schema) (fits : schema.Fits world)
    (guarded : world.Guarded) (has : world.Has root) (off : options.growNested = false)
    (path : PropertyPath) (raw : Value) :
    (accessor.setWith options root path raw).LocalOn world
      (accessor.ReadsCell schema world root path)
      (accessor.WritesCell schema world root options path raw) := by
  have plain := derived.plain
  obtain ⟨outcome, patch, within, runs, isRead⟩ :=
    writePath_patches derived fits guarded has off path raw
  refine ⟨outcome.map fun value => ⟨path.text, if options.extractOldValue then
    ((accessor.get root path).runOn world).1.toOption else none, value⟩, patch, within,
    fun later agrees => ?_⟩
  obtain ⟨middle, old, evolves⟩ := oldValue_runs plain options root path later
  obtain ⟨after, run, patched⟩ := runs middle
    ((agrees.mono fun _ _ reads => .inl reads).evolves evolves)
  have patchedLater : later.PatchedTo patch after := by
    simpa using (World.PatchedTo.of_evolves evolves).trans patched
  refine ⟨after, ?_, patchedLater⟩
  rw [runOn_setWith old, run]
  cases outcome with
  | error error => rfl
  | ok value =>
    rw [(isRead ⟨value, rfl⟩ later agrees).outcome_eq]

end

end Accessor

end PropertyGraph
