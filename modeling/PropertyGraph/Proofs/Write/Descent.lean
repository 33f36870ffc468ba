import PropertyGraph.Proofs.Write.Extension
import PropertyGraph.Proofs.Write.Growth
import PropertyGraph.Proofs.Write.Navigation

/-!
# Writes that fail before they put

A write walks its path down to the last segment, growing as it goes, and converts the raw value. If
it fails until then, all that it has done is growth. `Descends` tells how far a walk has come; it
grows at its end, as the walk does, also where the walk does not get to the end of the path. The
properties that have grown are the ones that the walk has entered, and the error names a front of
the path that goes at least as far.
-/
namespace PropertyGraph

/-- The error is one of a write that has put nothing. -/
def AccessError.isBeforePut : AccessError → Bool
  | .malformedPath _ | .typeMismatch _ _ | .growFailed _ _ _ | .invalidProperty _ _ _
  | .notReadable _ _ => true
  | _ => false

/-- Every list and every map that a cell shows behind some keys is there as it was. -/
def World.KeepsCollections (world after : World) : Prop :=
  ∀ ref field keys value, world.Has ref → (world.shown ref field).follow? keys = some value →
    value.core.isCollection = true → (after.shown ref field).follow? keys = some value

namespace Accessor

open Access (GrowsOn)

/-- The walk of a write comes down a row of segments to a value, with the declared type and the
owner of its slot. -/
inductive Descends (accessor : Accessor) (request : WriteRequest) (start : World)
    (root : BeanRef) : List Segment → Value → DeclaredType → TypeRef → World → Prop
  | root : Descends accessor request start root [] (.bean root) (.bean root.type) root.type start
  | property (before : List Segment) (label : String) (holder child : Value)
      (declared : DeclaredType) (owner : TypeRef) (ref : BeanRef) (info : PropertyInfo)
      (middle after : World) :
    Descends accessor request start root before holder declared owner middle →
    holder.core = .bean ref → accessor.capability? ref.type label = some (.property info) →
    info.isReadable = true →
    (accessor.enter request (before ++ [.name label]) ref info).runOn middle = (.ok child, after) →
    Descends accessor request start root (before ++ [.name label]) child info.type ref.type after
  | handle (before : List Segment) (label : String) (holder : Value) (declared : DeclaredType)
      (owner : TypeRef) (ref : BeanRef) (middle : World) :
    Descends accessor request start root before holder declared owner middle →
    holder.core = .bean ref → accessor.capability? ref.type label = some .handle →
    Descends accessor request start root (before ++ [.name label])
      (.bean (middle.add (TypeHandle.bean ref.type)).1) (.bean TypeHandle.type) ref.type
      (middle.add (TypeHandle.bean ref.type)).2
  | slot (before : List Segment) (segment : Segment) (holder slot child : Value)
      (rebuild : Value → Value) (declared : DeclaredType) (owner : TypeRef)
      (middle extended after : World) :
    Descends accessor request start root before holder declared owner middle →
    accessor.Opens request before holder declared owner middle segment slot rebuild extended →
    (accessor.enterSlot request (before ++ [segment]) owner declared.element slot).runOn extended =
      (.ok child, after) →
    Descends accessor request start root (before ++ [segment]) child declared.element owner after

/-- The property is entered on the way down a row of segments. -/
def Enters (accessor : Accessor) (request : WriteRequest) (start : World) (root : BeanRef)
    (segments : List Segment) (ref : BeanRef) (info : PropertyInfo) : Prop :=
  ∃ before label later holder declared owner middle, segments = before ++ .name label :: later ∧
    accessor.Descends request start root before holder declared owner middle ∧
    holder.core = .bean ref ∧ accessor.capability? ref.type label = some (.property info)

/-- The walk down a row of segments has come to its end, or it has failed at one of them; up to
there it has done nothing but growth. -/
def WalkEnds (accessor : Accessor) (schema : Schema) (request : WriteRequest) (start : World)
    (root : BeanRef) (segments : List Segment) (run : Except AccessError Plan × World) : Prop :=
  ∃ before last later, segments = before ++ last :: later ∧
    accessor.GrowsTo schema (accessor.Enters request start root (before ++ [last])) start run.2 ∧
    match run.1 with
    | .ok plan => later = [] ∧ plan.walked = before ++ [last]
    | .error error => error.Blames (before ++ [last])

section

variable {accessor : Accessor} {schema : Schema} {request : WriteRequest}
  {world start middle after : World} {root : BeanRef} {before later segments : List Segment}
  {segment last : Segment} {holder : Value} {declared : DeclaredType} {owner : TypeRef}

/-! ## How far a walk has come -/

/-- What is entered on the way down is entered on every longer way. -/
theorem Enters.append {ref : BeanRef} {info : PropertyInfo}
    (enters : accessor.Enters request start root segments ref info) (later : List Segment) :
    accessor.Enters request start root (segments ++ later) ref info := by
  obtain ⟨before, label, rest, holder, declared, owner, middle, split, descends, names⟩ := enters
  have longer : segments ++ later = before ++ .name label :: (rest ++ later) := by
    rw [split, List.append_assoc, List.cons_append]
  exact ⟨before, label, rest ++ later, holder, declared, owner, middle, longer, descends, names⟩

/-- What is known where a walk has come to. -/
structure Reached (accessor : Accessor) (schema : Schema) (request : WriteRequest) (start : World)
    (root : BeanRef) (before : List Segment) (holder : Value) (after : World) : Prop where
  fits : schema.Fits after
  admits : after.Admits holder
  grows : accessor.GrowsTo schema (accessor.Enters request start root before) start after

/-- A walk that comes one segment further has grown a little more. -/
theorem Reached.onward (reached : accessor.Reached schema request start root before holder middle)
    {child : Value} (grows : accessor.GrowsTo schema
      (accessor.Enters request start root (before ++ [segment])) middle after)
    (fits : schema.Fits after) (admits : after.Admits child) :
    accessor.Reached schema request start root (before ++ [segment]) child after :=
  ⟨fits, admits, (reached.grows.mono fun _ _ site => site.append [segment]).trans grows⟩

/-- Each step of a walk is growth, and the property that it enters is one of the sites. -/
theorem Descends.reached (plain : accessor.registry.Plain schema)
    (makes : accessor.Constructs schema) (fits : schema.Fits start) (has : start.Has root)
    (descends : accessor.Descends request start root before holder declared owner after) :
    accessor.Reached schema request start root before holder after := by
  induction descends with
  | root => exact ⟨fits, .bean root has, .refl start⟩
  | property before label holder child declared owner ref info middle after descends core names
      readable enters ih =>
    have hasRef : middle.Has ref := (core ▸ ih.admits.core).has
    obtain ⟨field, type, typed, shows⟩ := shows_of_capability? plain names
    obtain ⟨-, fitsAfter, admits, -⟩ :=
      enters_shown makes ih.fits typed shows readable hasRef enters
    have site : accessor.Enters request start root (before ++ [.name label]) ref info :=
      ⟨before, label, [], holder, declared, owner, middle, rfl, descends, core, names⟩
    have grows := enter_grows makes ih.fits hasRef typed shows readable site _ |>.of_run enters
    exact ih.onward grows.1 fitsAfter admits
  | handle before label holder declared owner ref middle descends core names ih =>
    have brings : accessor.Brings middle (middle.add (TypeHandle.bean ref.type)).2 :=
      .handle ref.type
    exact ih.onward brings.growsTo (ih.fits.of_handle ref.type) (.bean _ (World.has_add middle _))
  | slot before segment holder slot child rebuild declared owner middle extended after descends
      opens enters ih =>
    obtain ⟨-, fitsExtended, admitsSlot⟩ := opens.adds makes ih.fits ih.admits
    obtain ⟨-, fitsAfter, told⟩ := (enterSlot_adds makes fitsExtended (before ++ [segment]) owner
      declared.element admitsSlot).of_run enters
    have onward : accessor.GrowsTo schema
        (accessor.Enters request start root (before ++ [segment])) extended after :=
      (GrowsOn.of_run (enterSlot_grows _ _ _ _ _) enters).1
    exact ih.onward (opens.growsTo.trans onward) fitsAfter (told child rfl)

/-! ## How a walk ends -/

/-- A part of a walk at a segment fails there, or the walk goes on after it. -/
theorem walkEnds_bind {α : Type} {first : Access α} {next : α → Access Plan}
    (during : accessor.GrowsTo schema (accessor.Enters request start root (before ++ [segment]))
      start middle)
    (grows : GrowsOn accessor schema (accessor.Enters request start root (before ++ [segment]))
      (AccessError.Blames (before ++ [segment])) first middle)
    (further : ∀ value seen, first.runOn middle = (.ok value, seen) →
      accessor.GrowsTo schema (accessor.Enters request start root (before ++ [segment])) start
        seen →
      accessor.WalkEnds schema request start root (before ++ segment :: later)
        ((next value).runOn seen)) :
    accessor.WalkEnds schema request start root (before ++ segment :: later)
      ((first >>= next).runOn middle) := by
  rcases run : first.runOn middle with ⟨(error | value), seen⟩
  · obtain ⟨onward, blames⟩ := grows.of_run run
    rw [Access.runOn_bind_of_error run]
    exact ⟨before, segment, later, rfl, during.trans onward, blames error rfl⟩
  · obtain ⟨onward, -⟩ := grows.of_run run
    rw [Access.runOn_bind_of_ok run]
    exact further value seen run (during.trans onward)

/-- A walk that is refused a segment ends there. -/
theorem walkEnds_throw
    (during : accessor.GrowsTo schema (accessor.Enters request start root (before ++ [segment]))
      start middle) {error : AccessError} (blames : error.Blames (before ++ [segment])) :
    accessor.WalkEnds schema request start root (before ++ segment :: later)
      ((throw error : Access Plan).runOn middle) :=
  ⟨before, segment, later, rfl, during, blames⟩

/-- A walk that has a plan for its last segment ends there. -/
theorem walkEnds_pure
    (during : accessor.GrowsTo schema (accessor.Enters request start root (before ++ [segment]))
      start middle) {plan : Plan} (walked : plan.walked = before ++ [segment]) :
    accessor.WalkEnds schema request start root (before ++ [segment])
      ((pure plan : Access Plan).runOn middle) :=
  ⟨before, segment, [], rfl, during, rfl, walked⟩

/-- What is planned besides does not change where the walk ends. -/
theorem WalkEnds.bind_pure {walk : Access Plan}
    (ends : accessor.WalkEnds schema request start root segments (walk.runOn middle))
    {change : Plan → Plan} (kept : ∀ plan, (change plan).walked = plan.walked) :
    accessor.WalkEnds schema request start root segments
      ((walk >>= fun plan => pure (change plan)).runOn middle) := by
  obtain ⟨before, last, later, split, grows, outcome⟩ := ends
  rcases run : walk.runOn middle with ⟨(error | plan), after⟩
  · rw [run] at grows outcome
    rw [Access.runOn_bind_of_error run]
    exact ⟨before, last, later, split, grows, outcome⟩
  · rw [run] at grows outcome
    rw [Access.runOn_bind_of_ok run]
    exact ⟨before, last, later, split, grows, outcome.1, (kept plan).trans outcome.2⟩

/-- The walk behind a segment, from wherever the walk has come to. -/
def EndsBelow (accessor : Accessor) (schema : Schema) (request : WriteRequest) (start : World)
    (root : BeanRef) (before : List Segment) (segment : Segment) (later : List Segment) :
    Option Walk → Prop
  | none => later = []
  | some walk => ∀ child declared owner seen,
    accessor.Descends request start root (before ++ [segment]) child declared owner seen →
    accessor.WalkEnds schema request start root (before ++ segment :: later)
      ((walk child declared owner).runOn seen)

/-- At the last name the walk ends. -/
theorem walkEnds_last {label : String} {ref : BeanRef}
    (during : accessor.GrowsTo schema
      (accessor.Enters request start root (before ++ [.name label])) start middle) :
    accessor.WalkEnds schema request start root (before ++ [.name label])
      ((accessor.planLast (before ++ [.name label]) ref label).runOn middle) := by
  unfold planLast
  split
  · split
    · exact walkEnds_pure during rfl
    · exact walkEnds_throw during rfl
  · exact walkEnds_throw during rfl

/-- At another name the walk ends, or it goes on below the property or the type handle. -/
theorem walkEnds_below (plain : accessor.registry.Plain schema)
    (makes : accessor.Constructs schema) {label : String} {ref : BeanRef} {walk : Walk}
    (reached : accessor.Reached schema request start root before holder middle)
    (descends : accessor.Descends request start root before holder declared owner middle)
    (core : holder.core = .bean ref)
    (below : accessor.EndsBelow schema request start root before (.name label) later
      (some walk)) :
    accessor.WalkEnds schema request start root (before ++ .name label :: later)
      ((accessor.planBelow request (before ++ [.name label]) ref label walk).runOn middle) := by
  have during := reached.grows.mono fun _ _ site => site.append [.name label]
  have hasRef : middle.Has ref := (core ▸ reached.admits.core).has
  unfold planBelow
  split
  case h_1 info names =>
    split
    case isTrue readable =>
      obtain ⟨field, type, typed, shows⟩ := shows_of_capability? plain names
      have site : accessor.Enters request start root (before ++ [.name label]) ref info :=
        ⟨before, label, [], holder, declared, owner, middle, rfl, descends, core, names⟩
      refine walkEnds_bind during
        (enter_grows makes reached.fits hasRef typed shows readable site _) ?_
      intro child seen enters _
      have further := Descends.property before label holder child declared owner ref info middle
        seen descends core names readable enters
      exact (below child info.type ref.type seen further).bind_pure fun _ => rfl
    case isFalse => exact walkEnds_throw during rfl
  case h_2 names =>
    refine walkEnds_bind during (handleCursor_grows ref.type middle) ?_
    intro handle seen comes _
    rw [runOn_handleCursor] at comes
    cases comes
    have further := Descends.handle before label holder declared owner ref middle descends core
      names
    exact (below _ _ ref.type _ further).bind_pure fun _ => rfl
  case h_3 => exact walkEnds_throw during rfl

/-- At a slot of a collection the walk ends, or it goes on below the slot. -/
theorem walkEnds_slot {slot : Value} {rebuild : Value → Value} {extended : World}
    {walk? : Option Walk}
    (descends : accessor.Descends request start root before holder declared owner middle)
    (opens : accessor.Opens request before holder declared owner middle segment slot rebuild
      extended)
    (during : accessor.GrowsTo schema (accessor.Enters request start root (before ++ [segment]))
      start extended)
    (below : accessor.EndsBelow schema request start root before segment later walk?) :
    accessor.WalkEnds schema request start root (before ++ segment :: later)
      ((accessor.planSlot request (before ++ [segment]) owner declared.element slot rebuild
        walk?).runOn extended) := by
  cases walk? with
  | none =>
    obtain rfl : later = [] := below
    exact walkEnds_pure during rfl
  | some walk =>
    refine walkEnds_bind during (enterSlot_grows _ owner declared.element slot extended) ?_
    intro child seen enters _
    have further := Descends.slot before segment holder slot child rebuild declared owner middle
      extended seen descends opens enters
    exact (below child declared.element owner seen further).bind_pure fun _ => rfl

/-- One segment of a walk: a name of a bean, a slot of a list or of a map, or a refusal. -/
theorem planStep_ends (plain : accessor.registry.Plain schema) (makes : accessor.Constructs schema)
    {walk? : Option Walk}
    (reached : accessor.Reached schema request start root before holder middle)
    (descends : accessor.Descends request start root before holder declared owner middle)
    (below : accessor.EndsBelow schema request start root before segment later walk?) :
    accessor.WalkEnds schema request start root (before ++ segment :: later)
      ((accessor.planStep request before segment walk? holder declared owner).runOn middle) := by
  have during := reached.grows.mono fun _ _ site => site.append [segment]
  unfold planStep
  dsimp only
  split
  case h_1 ref label core =>
    cases walk? with
    | none =>
      obtain rfl : later = [] := below
      exact walkEnds_last during
    | some walk => exact walkEnds_below plain makes reached descends core below
  case h_2 => exact walkEnds_throw during rfl
  case h_3 items key quoted core =>
    cases isIndex : listIndex? key with
    | none =>
      simp only [listIndex, isIndex]
      exact walkEnds_throw during rfl
    | some index =>
      simp only [listIndex, isIndex, pure_bind]
      refine walkEnds_bind during (extendTo_grows before _ owner declared.element index items _) ?_
      intro extended seen lengthens further
      exact walkEnds_slot descends (.list key quoted items extended index seen core isIndex
        lengthens) further below
  case h_4 entries key quoted core =>
    exact walkEnds_slot descends (.map key quoted entries core) during below
  case h_5 => exact walkEnds_throw during rfl

/-- A walk goes down its segments one by one, by induction on the segments that are left. -/
theorem planInto_ends (plain : accessor.registry.Plain schema) (makes : accessor.Constructs schema)
    (fits : schema.Fits start) (has : start.Has root) (later : List Segment) :
    ∀ (before : List Segment) (segment : Segment) (holder : Value) (declared : DeclaredType)
      (owner : TypeRef) (middle : World),
      accessor.Descends request start root before holder declared owner middle →
      accessor.WalkEnds schema request start root (before ++ segment :: later)
        ((accessor.planInto request before segment later holder declared owner).runOn middle) := by
  induction later with
  | nil =>
    intro before segment holder declared owner middle descends
    have below : accessor.EndsBelow schema request start root before segment [] none := rfl
    exact planStep_ends plain makes (descends.reached plain makes fits has) descends below
  | cons next later ih =>
    intro before segment holder declared owner middle descends
    refine planStep_ends plain makes (descends.reached plain makes fits has) descends ?_
    intro child declared' owner' seen further
    rw [List.append_cons]
    exact ih (before ++ [segment]) next child declared' owner' seen further

/-! ## The whole write -/

/-- A value that is not put into its property is refused for good: the property cannot be written,
or its setter refuses. -/
theorem isBeforePut_of_putAll {puts : List Put} {error : AccessError}
    (failed : (putAll puts).runOn world = (.error error, after)) : error.isBeforePut = false := by
  induction puts generalizing world with
  | nil => simp [putAll] at failed
  | cons step rest ih =>
    rw [putAll] at failed
    rcases Access.runOn_bind_eq_error_iff.1 failed with refused | ⟨_, middle, -, failed⟩
    · unfold putBack at refused
      split at refused
      · rw [put, Access.runOn_invoke] at refused
        cases written : (world.write step.ref step.info step.value).1 with
        | ok => simp [written] at refused
        | error cause =>
          obtain ⟨rfl, -⟩ : _ = error ∧ _ := by simpa [written] using refused
          rfl
      · obtain ⟨rfl, -⟩ : _ = error ∧ _ := by simpa using refused
        rfl
    · exact ih failed

/-- A write that fails before it puts has done nothing but growth, on the front of the path that its
error names. -/
theorem writePath_growsTo (plain : accessor.registry.Plain schema)
    (makes : accessor.Constructs schema) (fits : schema.Fits start) (has : start.Has root)
    {options : AccessOptions} {path : PropertyPath} {raw : Value} {error : AccessError}
    (failed : (accessor.writePath options root path raw).runOn start = (.error error, after))
    (early : error.isBeforePut = true) :
    ∃ count, count ≤ path.length ∧ error.property? = some (path.front count) ∧
      accessor.GrowsTo schema
        (accessor.Enters ⟨raw, options⟩ start root (path.segments.take count)) start after := by
  have ends : accessor.WalkEnds schema ⟨raw, options⟩ start root ([] ++ path.segments)
      ((accessor.planPath ⟨raw, options⟩ root path).runOn start) :=
    planInto_ends plain makes fits has path.later [] path.first _ _ _ start .root
  obtain ⟨before, last, later, split, grows, outcome⟩ := ends
  rw [List.nil_append] at split
  have front : path.segments.take (before.length + 1) = before ++ [last] := by
    rw [split, List.append_cons, List.take_left' (by simp)]
  have named : path.front (before.length + 1) = Segment.render (before ++ [last]) :=
    PropertyPath.front_of_split split
  refine ⟨before.length + 1, (PropertyPath.length_of_split split).1, ?_⟩
  rw [front, named]
  rw [writePath_eq_plan] at failed
  rcases Access.runOn_bind_eq_error_iff.1 failed with failed | ⟨plan, middle, planned, failed⟩
  · rw [failed] at grows outcome
    exact ⟨outcome, grows⟩
  rw [planned] at grows outcome
  rcases Access.runOn_bind_eq_error_iff.1 failed with refused | ⟨value, _, _, failed⟩
  · rw [convertRaw, Access.runOn_mk_pure] at refused
    cases converted : convertTo accessor.converter raw plan.target with
    | ok value => simp [converted] at refused
    | error cause =>
      obtain ⟨rfl, rfl⟩ : _ = error ∧ middle = after := by simpa [converted] using refused
      refine ⟨?_, grows⟩
      rw [← outcome.2]
      rfl
  · rcases Access.runOn_bind_eq_error_iff.1 failed with failed | ⟨_, _, _, done⟩
    · simp [isBeforePut_of_putAll failed] at early
    · simp at done

/-- The property is entered by a write on the front of its path that the error names. -/
def FailsThrough (accessor : Accessor) (options : AccessOptions) (raw : Value) (world : World)
    (root : BeanRef) (text : String) (error : AccessError) (ref : BeanRef) (info : PropertyInfo) :
    Prop :=
  ∃ path count oldValue? start, PropertyPath.parse text = .ok path ∧ count ≤ path.length ∧
    error.property? = some (path.front count) ∧
    (accessor.oldValue options root path).runOn world = (.ok oldValue?, start) ∧
    accessor.Enters ⟨raw, options⟩ start root (path.segments.take count) ref info

/-- What grows holds nothing before, so no list and no map changes. -/
theorem OnlyGrows.keepsCollections {sites : BeanRef → PropertyInfo → Prop}
    (grows : accessor.OnlyGrows schema sites start world after) : world.KeepsCollections after := by
  intro ref field keys value has found collection
  rcases grows.cell ref field has with same | grown
  · rw [World.shown_eq, same, ← World.shown_eq]
    exact found
  · have absent := grown.absent
    cases keys with
    | nil =>
      obtain rfl : world.shown ref field = value := by simpa [Value.follow?] using found
      cases shown : world.shown ref field <;>
        simp_all [Value.core, Value.isCollection, Value.isAbsent]
    | cons key keys =>
      cases key <;> cases shown : world.shown ref field <;>
        simp_all [Value.follow?, Value.slot?, Value.core, Value.isAbsent]

/-- A write at a text that fails before it puts has done nothing but growth, on the front of the
path that its error names. Reading the old value is growth, too. -/
theorem setTextWith_growsTo (plain : accessor.registry.Plain schema)
    (makes : accessor.Constructs schema) (fits : schema.Fits world) (has : world.Has root)
    {options : AccessOptions} {text : String} {raw : Value} {error : AccessError}
    (failed : (accessor.setTextWith options root text raw).runOn world = (.error error, after))
    (early : error.isBeforePut = true) :
    accessor.GrowsTo schema (accessor.FailsThrough options raw world root text error) world
      after := by
  rw [setTextWith, parsePath] at failed
  cases parsed : PropertyPath.parse text with
  | error cause =>
    rw [parsed, Access.runOn_bind, Access.runOn_mk_pure] at failed
    obtain rfl : world = after := (Prod.mk.inj failed).2
    exact .refl world
  | ok path =>
    have written : (accessor.setWith options root path raw).runOn world =
        (.error error, after) := by
      rw [parsed, Access.runOn_bind, Access.runOn_mk_pure] at failed
      exact failed
    obtain ⟨oldValue?, start, outcome, read, evolves, fitsStart, run, same⟩ :=
      setWith_runs plain fits has written
    have wrote : outcome = .error error := by
      cases outcome with
      | ok value => simp [Except.map] at same
      | error cause =>
        obtain rfl : error = cause := by simpa [Except.map] using same
        rfl
    have hasStart : start.Has root := evolves.has root has
    obtain ⟨count, within, named, onward⟩ :=
      writePath_growsTo plain makes fitsStart hasStart (wrote ▸ run) early
    have toStart : accessor.GrowsTo schema
        (accessor.FailsThrough options raw world root text error) world
        ((accessor.oldValue options root path).runOn world).2 :=
      oldValue_grows plain fits has options path
    rw [read] at toStart
    apply toStart.trans
    apply onward.mono
    intro ref info entered
    exact ⟨path, count, oldValue?, start, parsed, within, named, read, entered⟩

/-- A write that fails before it puts has only grown what was absent. Every cell of a bean that
there was is as it was, or it was absent and holds what a constructor has given, an empty list or an
empty map; then a property that shows it is entered on the front of the path that the error names.
No list and no map has changed. The same holds of each bean that has come in, from then on. -/
theorem failed_set_only_grows (plain : accessor.registry.Plain schema)
    (makes : accessor.Constructs schema) (fits : schema.Fits world) (has : world.Has root)
    {options : AccessOptions} {text : String} {raw : Value} {error : AccessError}
    (failed : (accessor.setTextWith options root text raw).runOn world = (.error error, after))
    (early : error.isBeforePut = true) :
    let sites := accessor.FailsThrough options raw world root text error
    accessor.OnlyGrows schema sites world world after ∧ world.KeepsCollections after ∧
      ∀ ref, after.Has ref → ¬ world.Has ref → ∃ earlier born,
        accessor.GrowsTo schema sites world earlier ∧ accessor.Brings earlier born ∧
        ¬ earlier.Has ref ∧ born.Has ref ∧ accessor.OnlyGrows schema sites world born after ∧
        born.KeepsCollections after := by
  intro sites
  have grows : accessor.GrowsTo schema sites world after :=
    setTextWith_growsTo plain makes fits has failed early
  have account := grows.account makes fits
  refine ⟨account.grows, account.grows.keepsCollections, fun ref hasRef new => ?_⟩
  obtain ⟨earlier, born, during, came, before, since, kept⟩ := account.born ref hasRef new
  exact ⟨earlier, born, during, came, before, since, kept, kept.keepsCollections⟩

end

open Household in
/-- Tom gets an owner, and then the owner does not take a list for a name. -/
theorem set_name_of_new_owner_only_grows :
    let write := accessor.setTextWith { growNested := true } tom "owner.name" (.list [])
    ∃ error after, write.runOn (world []) = (.error error, after) ∧ error.isBeforePut = true ∧
      (world []).shown tom "owner" = .optNone ∧
      after.shown tom "owner" = .optSome (.bean ⟨4, person⟩) ∧
      (let sites := accessor.FailsThrough { growNested := true } (.list []) (world []) tom
        "owner.name" error
      accessor.OnlyGrows layout.schema sites (world []) (world []) after ∧
        (world []).KeepsCollections after) := by
  intro write
  have isParsed : PropertyPath.parse "owner.name" = .ok ⟨.name "owner", [.name "name"]⟩ := by
    decide +kernel
  have written : write = accessor.setWith { growNested := true } tom
      ⟨.name "owner", [.name "name"]⟩ (.list []) := by
    simp only [write, setTextWith, parsePath_of_parse isParsed, pure_bind]
  have makes : accessor.Constructs layout.schema := fun _ _ found => layout.registry_makes found
  obtain ⟨error, after, failed, early, unowned, owned⟩ : ∃ error after,
      write.runOn (world []) = (.error error, after) ∧ error.isBeforePut = true ∧
        (world []).shown tom "owner" = .optNone ∧
        after.shown tom "owner" = .optSome (.bean ⟨4, person⟩) := by
    rw [written]
    exact ⟨_, _, rfl, rfl, rfl, rfl⟩
  have hasTom : (world []).Has tom := ⟨_, rfl, rfl⟩
  obtain ⟨grows, keeps, -⟩ :=
    failed_set_only_grows layout.registry_plain makes (fits_world []) hasTom failed early
  exact ⟨error, after, failed, early, unowned, owned, grows, keeps⟩

end Accessor

end PropertyGraph
