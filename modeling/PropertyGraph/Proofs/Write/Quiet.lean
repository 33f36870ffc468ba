import PropertyGraph.Proofs.Field.Stores
import PropertyGraph.Proofs.Read.Arrival
import PropertyGraph.Proofs.Value.Outside
import PropertyGraph.Proofs.Write.Walk

/-!
# Walks that make nothing

Where absent values are not made, a walk only reads. If it succeeds, the world is as it was, and the
plan follows from the path alone: the value goes into the property of the last name, in which the
keys behind that name lead to it and nothing off those keys is changed; after that, every collection
on the way is put back as it was read, the innermost first.
-/
namespace PropertyGraph.Accessor

section

variable {accessor : Accessor} {request : WriteRequest} {schema : Schema} {world : World}
  {root ref : BeanRef} {before : List Segment}

/-- Without growth a property is entered only if its value is present. -/
theorem enter_quiet (accessor : Accessor) (off : request.options.growNested = false)
    {info : PropertyInfo} {field : String} {type : FieldType}
    (shows : info.ShowsField ref.type field type) (readable : info.isReadable = true)
    (has : world.Has ref) (walked : List Segment) :
    ((accessor.enter request walked ref info).runOn world = (.ok (world.shown ref field), world) ∧
      (Access.invoke walked ref (·.read ref info)).runOn world =
        (.ok (world.shown ref field), world)) ∨
    (accessor.enter request walked ref info).FailsOn world := by
  have read := runOn_read shows readable has walked
  by_cases held : world.isHeldExclusively ref
  · rw [if_pos held] at read
    exact .inr (.bind ⟨_, _, read, .refl _ _⟩ _)
  · rw [if_neg held] at read
    by_cases absent : (world.shown ref field).isAbsent
    · refine .inr (.bind_of_ok read (.refl _ _) ?_)
      simp only [absent, growIfAllowed, off, ↓reduceIte, Bool.false_eq_true, Access.throw_bind]
      exact .throw _ _
    · exact .inl ⟨runOn_enter_of_read read (by simpa using absent), read⟩

/-- A property that is entered without growth is read, and its value is present. -/
theorem enters_quiet (off : request.options.growNested = false)
    {info : PropertyInfo} {field : String} {type : FieldType}
    (shows : info.ShowsField ref.type field type) (readable : info.isReadable = true)
    (has : world.Has ref) {walked : List Segment} {child : Value} {middle : World}
    (enters : (accessor.enter request walked ref info).runOn world = (.ok child, middle)) :
    world.shown ref field = child ∧ world = middle ∧
      (Access.invoke walked ref (·.read ref info)).runOn world =
        (.ok (world.shown ref field), world) := by
  rcases enter_quiet accessor off shows readable has walked with
    ⟨entered, read⟩ | ⟨_, _, failed, -⟩
  · obtain ⟨sameChild, sameWorld⟩ : world.shown ref field = child ∧ world = middle := by
      simpa [entered] using enters
    exact ⟨sameChild, sameWorld, read⟩
  · simp [failed] at enters

/-- What is read in a world was read before, if the bean is the same. -/
theorem read_of_evolves {middle : World} (evolves : world.EvolvesTo [] middle)
    {info : PropertyInfo} {field : String} {type : FieldType}
    (shows : info.ShowsField ref.type field type) (readable : info.isReadable = true)
    (has : world.Has ref) {walked : List Segment} {child : Value}
    (read : (Access.invoke walked ref (·.read ref info)).runOn middle = (.ok child, middle)) :
    (Access.invoke walked ref (·.read ref info)).runOn world = (.ok child, world) := by
  rw [runOn_read shows readable (evolves.has ref has),
    World.isHeldExclusively_of_guards evolves.guards,
    evolves.shown has (by simp)] at read
  rw [runOn_read shows readable has]
  simp only [Prod.mk.injEq, and_true] at read ⊢
  exact read

/-- Without growth a slot is entered only if its value is present. -/
theorem enterSlot_quiet (off : request.options.growNested = false) (walked : List Segment)
    (owner : TypeRef) (element : DeclaredType) (slot : Value) :
    accessor.enterSlot request walked owner element slot =
      if slot.isAbsent then throw (.growFailed (Segment.render walked) owner .disabled)
      else pure slot := by
  simp [enterSlot, growIfAllowed, off]

/-- Without growth a list is never extended. -/
theorem extendTo_quiet (off : request.options.growNested = false) (before : List Segment)
    (segment : Segment) (owner : TypeRef) (element : DeclaredType) (index : Nat)
    (items : List Value) :
    accessor.extendTo request before segment owner element index items =
      if index < items.length then pure items
      else throw (.invalidProperty (Segment.render (before ++ [segment])) owner
        (.outOfBounds index items.length)) := by
  by_cases inside : index < items.length
  · simp [extendTo, inside]
  · simp [extendTo, inside, off]

/-! ## A walk is quiet -/

/-- A walk into a slot is quiet if what is behind it is. -/
theorem planSlot_quiet (off : request.options.growNested = false) (walked : List Segment)
    (owner : TypeRef) (element : DeclaredType) {slot : Value} (rebuild : Value → Value)
    {walk? : Option Walk} (admitted : world.Admits slot)
    (quiet : ∀ walk, walk? = some walk → ∀ child declared owner, world.Admits child →
      (walk child declared owner).QuietOn world) :
    (accessor.planSlot request walked owner element slot rebuild walk?).QuietOn world := by
  cases walk? with
  | none => exact .pure _ _
  | some walk =>
    simp only [planSlot, enterSlot_quiet off]
    by_cases absent : slot.isAbsent
    · simp only [absent, ↓reduceIte, Access.throw_bind]
      exact .throw _ _
    · simp only [absent, Bool.false_eq_true, ↓reduceIte, pure_bind]
      exact .bind (quiet walk rfl slot element owner admitted) fun _ _ => .pure _ _

/-- A step without growth is quiet if what is behind it is; into a type handle it fails. -/
theorem planStep_quiet (plain : accessor.registry.Plain schema) (fits : schema.Fits world)
    (off : request.options.growNested = false) (before : List Segment) (segment : Segment)
    {walk? : Option Walk} {holder : Value} (declared : DeclaredType) (owner : TypeRef)
    (admitted : world.Admits holder)
    (quiet : ∀ walk, walk? = some walk → ∀ child declared owner, world.Admits child →
      (walk child declared owner).QuietOn world)
    (handles : ∀ walk, walk? = some walk → ∀ declared owner described,
      (walk (.bean (world.add (TypeHandle.bean described)).1) declared owner).FailsOn
        (world.add (TypeHandle.bean described)).2) :
    (accessor.planStep request before segment walk? holder declared owner).QuietOn world := by
  have inside := admitted.core
  simp only [planStep]
  split
  case h_1 ref label core =>
    have has : world.Has ref := (core ▸ inside).has
    split
    · simp only [planLast]
      split
      · split
        · exact .pure _ _
        · exact .throw _ _
      · exact .throw _ _
    · next walk =>
      simp only [planBelow]
      split
      case h_1 info names =>
        split
        case isTrue readable =>
          obtain ⟨field, type, typed, shows⟩ := shows_of_capability? plain names
          obtain ⟨_, -, -, admitted'⟩ := fits.shown has typed
          rcases enter_quiet accessor off shows readable has
              (before ++ [.name label]) with ⟨entered, -⟩ | fails
          · refine .bind (.inl ⟨_, entered⟩) fun child done => ?_
            obtain rfl : world.shown ref field = child := by simpa [entered] using done
            exact .bind (quiet walk rfl _ _ _ admitted') fun _ _ => .pure _ _
          · exact .inr (fails.bind _)
        case isFalse => exact .throw _ _
      case h_2 =>
        exact .inr (.bind_of_ok (runOn_handleCursor _ _) (.of_add _ _)
          ((handles walk rfl _ _ _).bind _))
      case h_3 => exact .throw _ _
  case h_2 => exact .throw _ _
  case h_3 items key quoted core =>
    have each : world.Admits (.list items) := core ▸ inside
    simp only [listIndex]
    split
    · next index _ =>
      simp only [pure_bind, extendTo_quiet off]
      split
      · next bounded =>
        simp only [pure_bind, List.getElem?_eq_getElem bounded, Option.getD_some]
        exact planSlot_quiet off _ _ _ _ (each.item (List.getElem_mem bounded)) quiet
      · exact .throw _ _
    · exact .throw _ _
  case h_4 entries key quoted core =>
    have each : world.Admits (.map entries) := core ▸ inside
    refine planSlot_quiet off _ _ _ _ ?_ quiet
    cases found : Entries.find? key entries with
    | none => exact .atomic _ rfl
    | some slot => exact each.entry (Entries.mem_of_find? found)
  case h_5 => exact .throw _ _

/-- A walk without growth is quiet. -/
theorem planInto_quiet (plain : accessor.registry.Plain schema) (fits : schema.Fits world)
    (off : request.options.growNested = false) (later : List Segment) :
    ∀ (before : List Segment) (segment : Segment) (holder : Value) (declared : DeclaredType)
      (owner : TypeRef), world.Admits holder →
      (accessor.planInto request before segment later holder declared owner).QuietOn world := by
  induction later with
  | nil =>
    intro before segment holder declared owner admitted
    exact planStep_quiet plain fits off before segment declared owner admitted
      (by simp) (by simp)
  | cons next later ih =>
    intro before segment holder declared owner admitted
    refine planStep_quiet plain fits off before segment declared owner admitted ?_ ?_
    · intro walk isWalk child declared owner admitted
      obtain rfl := Option.some.inj isWalk
      exact ih _ _ _ _ _ admitted
    · intro walk isWalk declared owner described
      obtain rfl := Option.some.inj isWalk
      exact planInto_handle plain later _ _ _ _ _ _

/-! ## The plan of a quiet walk -/

/-- Without growth the slot that a key opens is the element that it leads to, if there is one. -/
theorem Opens.quiet (off : request.options.growNested = false) {segment : Segment}
    {holder slot : Value} {rebuild : Value → Value} {declared : DeclaredType} {owner : TypeRef}
    {middle opened : World} (admitted : world.Admits holder)
    (opens : accessor.Opens request before holder declared owner middle segment slot rebuild
      opened) :
    opened = middle ∧ (slot.isAbsent = false →
      holder.slot? segment = some slot ∧ rebuild slot = holder) := by
  cases opens with
  | list key quoted items extended index opened core isIndex lengthens =>
    rw [extendTo_quiet off] at lengthens
    split at lengthens
    case isTrue bounded =>
      simp only [Access.runOn_pure, Prod.mk.injEq, Except.ok.injEq] at lengthens
      obtain ⟨rfl, rfl⟩ := lengthens
      refine ⟨rfl, fun _ => ⟨?_, ?_⟩⟩
      · simp [Value.slot?, core, isIndex, bounded]
      · simp [bounded, ← core]
    case isFalse => simp at lengthens
  | map key quoted entries core =>
    refine ⟨rfl, fun present => ?_⟩
    cases found : Entries.find? key entries with
    | none => simp [found, Value.isAbsent] at present
    | some slot =>
      have ordered : Entries.Ordered entries := (core ▸ admitted.core).ordered
      refine ⟨by simp [Value.slot?, core, found], ?_⟩
      simp only [Option.getD_some, Entries.insert_of_find? ordered found, ← core,
        Value.wrap_core_depth]

/-- Without growth a collection is made anew with one slot changed. -/
theorem Opens.agreesBut (off : request.options.growNested = false) {segment : Segment}
    {holder slot : Value} {rebuild : Value → Value} {declared : DeclaredType} {owner : TypeRef}
    {middle opened : World}
    (opens : accessor.Opens request before holder declared owner middle segment slot rebuild
      opened) (value : Value) : Value.AgreesBut segment holder (rebuild value) := by
  rw [← Value.wrap_core_depth holder]
  cases opens with
  | list key quoted items extended index opened core isIndex lengthens =>
    rw [extendTo_quiet off] at lengthens
    split at lengthens
    case isTrue bounded =>
      simp only [Access.runOn_pure, Prod.mk.injEq, Except.ok.injEq] at lengthens
      obtain ⟨rfl, rfl⟩ := lengthens
      rw [core]
      refine .wrap (.list key quoted index items _ isIndex (by simp) fun place different => ?_) _
      exact List.getElem?_set_ne different.symm
    case isFalse => simp at lengthens
  | map key quoted entries core =>
    rw [core]
    exact .wrap (.map key quoted entries _ fun name different =>
      Entries.find?_insert_of_ne different value entries) _

/-- Without growth a walk along keys alone ends in a copy that agrees with the collection off the
keys. -/
theorem Walks.agreesOff_of_keys (off : request.options.growNested = false)
    {segments : List Segment} {holder : Value} {declared : DeclaredType} {owner : TypeRef}
    {plan : Plan} {middle after : World}
    (walks : accessor.Walks request middle before segments holder declared owner plan after)
    (admitted : world.Admits holder) (keys : ∀ segment ∈ segments, segment.isName = false)
    {copy : Value → Value} (copies : plan.copy? = some copy) (value : Value) :
    Value.AgreesOff segments holder (copy value) := by
  induction walks generalizing copy with
  | property => simp [Segment.isName] at keys
  | throughProperty => simp [Segment.isName] at keys
  | slot _ _ _ segment _ _ rebuild _ _ opens =>
    obtain rfl := Option.some.inj copies
    exact ⟨opens.agreesBut off value, .inl rfl⟩
  | throughSlot _ opened _ _ _ segment _ _ _ slot child rebuild _ _ plan opens enters walks ih =>
    obtain ⟨rfl, kept⟩ := opens.quiet off admitted
    rw [enterSlot_quiet off] at enters
    split at enters
    case isTrue => simp at enters
    case isFalse present =>
      obtain ⟨rfl, rfl⟩ : slot = child ∧ opened = _ := by simpa using enters
      obtain ⟨found, -⟩ := kept (by simpa using present)
      have isKey := fun segment among => keys segment (List.mem_cons_of_mem _ among)
      obtain ⟨-, inner, copiesInner, -⟩ := walks.copy_of_keys isKey
      obtain rfl := Option.some.inj copies
      simp only [copiesInner, Option.map_some, Option.getD_some]
      exact ⟨opens.agreesBut off _, .inr ⟨slot, inner value, found, opens.slot?_rebuild _,
        ih (admitted.slot? found) isKey copiesInner⟩⟩

/-- A put that puts back what was read: into the property of a name in the row that has a key
behind it. -/
structure PutsBack (accessor : Accessor) (world : World) (root : BeanRef)
    (before front : List Segment) (put : Put) : Prop where
  passes : ∃ front' label key quoted rest,
    front = front' ++ .name label :: .key key quoted :: rest ∧
      put.walked = before ++ front' ++ [.name label] ∧
      accessor.Leads world root (before ++ front') put.ref ∧
      accessor.capability? put.ref.type label = some (.property put.info)
  has : world.Has put.ref
  read : (world.read put.ref put.info).1 = .ok put.value
  value : ∀ field type, put.info.ShowsField put.ref.type field type →
    put.value = world.shown put.ref field
  beans : ∀ type : FieldType, type.Holds put.value → type.holdsBeans = true

/-- The row of segments starts with a key. -/
def startsWithKey : List Segment → Bool
  | .key _ _ :: _ => true
  | _ => false

/-- The plan of a quiet walk along a row of segments, the last name of which is a property of a
bean: what is put into that property, and what is put back after it. -/
structure QuietPlan (accessor : Accessor) (world : World) (root : BeanRef) (before : List Segment)
    (holder : Value) (front : List Segment) (label : String) (keys : List Segment) (plan : Plan)
    (ref : BeanRef) (info : PropertyInfo) (rebuild : Value → Value) (pending : List Put) :
    Prop where
  leads : accessor.Leads world root (before ++ front) ref
  has : world.Has ref
  names : accessor.capability? ref.type label = some (.property info)
  puts : ∀ value, plan.puts value =
    ⟨before ++ front ++ [.name label], ref, info, rebuild value⟩ :: pending
  follows : ∀ value, (rebuild value).follow? keys = some value
  outside : ∀ field type, info.ShowsField ref.type field type → ∀ value,
    Value.AgreesOff keys (world.shown ref field) (rebuild value)
  putsBack : ∀ put ∈ pending, accessor.PutsBack world root before front put
  complete : ∀ front' label key quoted rest,
    front = front' ++ .name label :: .key key quoted :: rest →
      ∃ put ∈ pending, put.walked = before ++ front' ++ [.name label]
  ordered : pending.Pairwise fun inner outer => outer.walked.length < inner.walked.length
  copy : plan.copy? = if startsWithKey front then some fun _ => holder else none
  beans : ∀ type : FieldType, type.Holds holder → type.holdsBeans = true

/-- What is put back behind a segment is put back behind the row that starts with it. -/
theorem PutsBack.cons {segment : Segment} {front : List Segment} {put : Put}
    (putsBack : accessor.PutsBack world root (before ++ [segment]) front put) :
    accessor.PutsBack world root before (segment :: front) put where
  passes := by
    obtain ⟨front', label, key, quoted, rest, rfl, walked, leads, names⟩ := putsBack.passes
    exact ⟨segment :: front', label, key, quoted, rest, by simp, by simpa using walked,
      by simpa using leads, names⟩
  has := putsBack.has
  read := putsBack.read
  value := putsBack.value
  beans := putsBack.beans

namespace QuietPlan

variable {holder child : Value} {front keys : List Segment} {label name : String} {plan : Plan}
  {info passed : PropertyInfo} {target : BeanRef} {rebuild : Value → Value} {pending : List Put}

/-- The plan of a path that ends in the property of a name, or in keys behind it. -/
theorem of_name (arrives : accessor.Arrives world root before holder)
    (core : holder.core = .bean ref) (has : world.Has ref)
    (names : accessor.capability? ref.type label = some (.property info))
    (puts : ∀ value, plan.puts value = [⟨before ++ [.name label], ref, info, rebuild value⟩])
    (follows : ∀ value, (rebuild value).follow? keys = some value)
    (outside : ∀ field type, info.ShowsField ref.type field type → ∀ value,
      Value.AgreesOff keys (world.shown ref field) (rebuild value)) (copy : plan.copy? = none) :
    accessor.QuietPlan world root before holder [] label keys plan ref info rebuild [] where
  leads := by simpa using arrives.leads core
  has := has
  names := names
  puts value := by simpa using puts value
  follows := follows
  outside := outside
  putsBack := by simp
  complete := by simp
  ordered := .nil
  copy := copy
  beans type holds := holds.holdsBeans core

/-- The plan of a path that goes on behind a property. What was read is put back if a key
follows. -/
theorem throughProperty (arrives : accessor.Arrives world root before holder)
    (core : holder.core = .bean ref) (has : world.Has ref)
    (names : accessor.capability? ref.type name = some (.property passed))
    (read : (world.read ref passed).1 = .ok child)
    (reads : ∀ field type, passed.ShowsField ref.type field type → child = world.shown ref field)
    (quiet : accessor.QuietPlan world root (before ++ [.name name]) child front label keys plan
      target info rebuild pending) :
    accessor.QuietPlan world root before holder (.name name :: front) label keys
      (plan.behindProperty (before ++ [.name name]) ref passed) target info rebuild
      (pending ++ if startsWithKey front then [⟨before ++ [.name name], ref, passed, child⟩]
        else []) where
  leads := by simpa using quiet.leads
  has := quiet.has
  names := quiet.names
  puts value := by
    simp only [Plan.behindProperty, quiet.puts, quiet.copy]
    cases startsWithKey front <;> simp
  follows := quiet.follows
  outside := quiet.outside
  putsBack := by
    intro put among
    rcases List.mem_append.1 among with among | among
    · exact (quiet.putsBack put among).cons
    · cases front with
      | nil => simp [startsWithKey] at among
      | cons first rest =>
        cases first with
        | name other => simp [startsWithKey] at among
        | key key quoted =>
          obtain rfl := List.mem_singleton.1 among
          exact ⟨⟨[], name, key, quoted, rest, rfl, by simp, by simpa using arrives.leads core,
            names⟩, has, read, reads, quiet.beans⟩
  complete := by
    intro front' label' key quoted rest split
    cases front' with
    | nil =>
      obtain ⟨rfl, rfl⟩ : name = label' ∧ front = .key key quoted :: rest := by simpa using split
      exact ⟨_, List.mem_append_right _ (List.mem_singleton_self _), by simp⟩
    | cons first front' =>
      obtain ⟨rfl, rfl⟩ : .name name = first ∧ front = front' ++ .name label' :: .key key quoted ::
        rest := by simpa using split
      obtain ⟨put, among, walked⟩ := quiet.complete front' label' key quoted rest rfl
      exact ⟨put, List.mem_append_left _ among, by simpa using walked⟩
  ordered := by
    refine List.pairwise_append.2 ⟨quiet.ordered, ?_, fun inner among outer isOuter => ?_⟩
    · split
      · exact List.pairwise_singleton _ _
      · exact .nil
    · split at isOuter
      · obtain rfl := List.mem_singleton.1 isOuter
        obtain ⟨_, _, _, _, _, -, walked, -, -⟩ := (quiet.putsBack inner among).passes
        simp only [walked, List.length_append, List.length_singleton]
        omega
      · simp at isOuter
  copy := by simp [Plan.behindProperty, startsWithKey]
  beans type holds := holds.holdsBeans core

/-- The plan of a path that goes on behind a key. The collection as it is has to be put back. -/
theorem throughSlot {key : String} {quoted : Bool} {remake : Value → Value}
    (found : holder.slot? (.key key quoted) = some child) (kept : remake child = holder)
    (quiet : accessor.QuietPlan world root (before ++ [.key key quoted]) child front label keys
      plan target info rebuild pending) :
    accessor.QuietPlan world root before holder (.key key quoted :: front) label keys
      (plan.inCollection child remake) target info rebuild pending where
  leads := by simpa using quiet.leads
  has := quiet.has
  names := quiet.names
  puts value := by simpa [Plan.inCollection] using quiet.puts value
  follows := quiet.follows
  outside := quiet.outside
  putsBack put among := (quiet.putsBack put among).cons
  complete := by
    intro front' label' key' quoted' rest split
    cases front' with
    | nil => simp at split
    | cons first front' =>
      obtain ⟨rfl, rfl⟩ : .key key quoted = first ∧ front = front' ++ .name label' ::
        .key key' quoted' :: rest := by simpa using split
      obtain ⟨put, among, walked⟩ := quiet.complete front' label' key' quoted' rest rfl
      exact ⟨put, among, by simpa using walked⟩
  ordered := quiet.ordered
  copy := by
    rw [Plan.inCollection, quiet.copy]
    cases startsWithKey front <;> simp [startsWithKey, kept]
  beans type holds := by
    obtain ⟨inside, outside⟩ := holds.entry found
    exact outside (quiet.beans _ inside)

end QuietPlan

/-- A quiet walk has a plan of that kind. It tells of any world that became the one walked in
without a change of its beans. -/
theorem Walks.quietPlan (plain : accessor.registry.Plain schema) (fits : schema.Fits world)
    (off : request.options.growNested = false) {segments : List Segment} {holder : Value}
    {declared : DeclaredType} {owner : TypeRef} {plan : Plan} {middle after : World}
    (walks : accessor.Walks request middle before segments holder declared owner plan after)
    (evolves : world.EvolvesTo [] middle)
    (admitted : world.Admits holder) (arrives : accessor.Arrives world root before holder)
    (front : List Segment) (label : String) (keys : List Segment)
    (split : segments = front ++ .name label :: keys)
    (isKey : ∀ segment ∈ keys, segment.isName = false) :
    ∃ ref info rebuild pending,
      accessor.QuietPlan world root before holder front label keys plan ref info rebuild
        pending := by
  induction walks generalizing front with
  | property middle before label' holder declared owner ref info core names writable =>
    have whole : front = [] ∧ label' = label ∧ keys = [] := by
      cases front <;> simp_all
    obtain ⟨rfl, rfl, rfl⟩ := whole
    exact ⟨ref, info, fun value => value, [], .of_name arrives core (core ▸ admitted.core).has
      names (fun _ => rfl) (fun _ => rfl) (fun _ _ _ _ => trivial) rfl⟩
  | throughProperty middle entered after before label' next later holder child declared owner ref
      info plan core names readable enters walks ih =>
    have has : world.Has ref := (core ▸ admitted.core).has
    obtain ⟨field, type, typed, shows⟩ := shows_of_capability? plain names
    obtain ⟨content, -, -, admitted'⟩ := fits.shown has typed
    have same : middle.shown ref field = world.shown ref field :=
      evolves.shown has (by simp) field
    obtain ⟨rfl, rfl, read⟩ := enters_quiet off shows readable (evolves.has ref has) enters
    rw [same] at read walks ih
    have readFirst := read_of_evolves evolves shows readable has read
    have reads : ∀ field' type', info.ShowsField ref.type field' type' →
        world.shown ref field = world.shown ref field' := by
      intro field' type' shows'
      have read' := runOn_read shows' readable has (before ++ [.name label'])
      rw [readFirst] at read'
      split at read'
      · simp at read'
      · simpa using read'
    cases front with
    | nil =>
      obtain ⟨rfl, rfl⟩ : label' = label ∧ next :: later = keys := by simpa using split
      obtain ⟨noPuts, copy, copies, follows⟩ := walks.copy_of_keys isKey
      refine ⟨ref, info, copy, [], .of_name arrives core has names (fun value => ?_) follows
        (fun field' type' shows' value => ?_) rfl⟩
      · simp [Plan.behindProperty, noPuts, copies]
      · exact reads field' type' shows' ▸
          walks.agreesOff_of_keys off admitted' isKey copies value
    | cons first front =>
      obtain ⟨rfl, further⟩ : .name label' = first ∧
        next :: later = front ++ .name label :: keys := by simpa using split
      obtain ⟨target, targetInfo, rebuild, pending, quiet⟩ :=
        ih evolves admitted' (arrives.name core names readable readFirst) front further
      exact ⟨target, targetInfo, rebuild, _,
        quiet.throughProperty arrives core has names
          (congrArg Prod.fst (Access.runOn_invoke_eq_ok_iff.1 readFirst)) reads⟩
  | slot middle opened before segment holder slot rebuild declared owner opens =>
    have whole : segment = .name label := by
      cases front <;> simp_all
    subst whole
    cases opens
  | throughSlot middle opened entered after before segment next later holder slot child rebuild
      declared owner plan opens enters walks ih =>
    obtain ⟨rfl, kept⟩ := opens.quiet off admitted
    rw [enterSlot_quiet off] at enters
    split at enters
    case isTrue => simp at enters
    case isFalse present =>
      obtain ⟨rfl, rfl⟩ : slot = child ∧ opened = entered := by simpa using enters
      obtain ⟨found, same⟩ := kept (by simpa using present)
      cases segment with
      | name label => cases opens
      | key key quoted =>
        cases front with
        | nil => simp at split
        | cons first front =>
          obtain ⟨rfl, further⟩ : .key key quoted = first ∧
            next :: later = front ++ .name label :: keys := by simpa using split
          obtain ⟨target, info, remake, pending, quiet⟩ :=
            ih evolves (admitted.slot? found) (arrives.key found) front further
          exact ⟨target, info, remake, pending, quiet.throughSlot found same⟩

end

end PropertyGraph.Accessor
