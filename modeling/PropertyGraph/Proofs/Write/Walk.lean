import PropertyGraph.Proofs.Convert.Optional
import PropertyGraph.Proofs.Read.Frame
import PropertyGraph.Proofs.Write.Plan

/-!
# Successful walks

What a write goes through before it converts the raw value. A walk that succeeds resolves names on
beans and opens slots of collections, down to the property or the slot at the end of the path; it
never succeeds through a type handle, of which nothing can be written. `Walks` has one case for
each step of such a walk, and `planInto_walks` says that these are all.
-/
namespace PropertyGraph.Accessor

/-- A key opens a slot of a collection: the slot's value, how the collection is made from a new
one, and the world when the list has been extended. -/
inductive Opens (accessor : Accessor) (request : WriteRequest) (before : List Segment)
    (holder : Value) (declared : DeclaredType) (owner : TypeRef) (world : World) :
    Segment → Value → (Value → Value) → World → Prop
  | list (key : String) (quoted : Bool) (items extended : List Value) (index : Nat)
      (middle : World) (core : holder.core = .list items)
      (isIndex : listIndex? key = some index)
      (lengthens : (accessor.extendTo request before (.key key quoted) owner declared.element index
        items).runOn world = (.ok extended, middle)) :
    Opens accessor request before holder declared owner world (.key key quoted)
      (extended[index]?.getD .null)
      (fun slot => (Value.list (extended.set index slot)).wrap holder.depth) middle
  | map (key : String) (quoted : Bool) (entries : List (String × Value))
      (core : holder.core = .map entries) :
    Opens accessor request before holder declared owner world (.key key quoted)
      ((Entries.find? key entries).getD .null)
      (fun slot => (Value.map (Entries.insert key slot entries)).wrap holder.depth) world

/-- A walk that succeeds, step by step, from a value and a world to a plan and a world. -/
inductive Walks (accessor : Accessor) (request : WriteRequest) :
    World → List Segment → List Segment → Value → DeclaredType → TypeRef → Plan → World → Prop
  | property (world : World) (before : List Segment) (label : String) (holder : Value)
      (declared : DeclaredType) (owner : TypeRef) (ref : BeanRef) (info : PropertyInfo)
      (core : holder.core = .bean ref)
      (names : accessor.capability? ref.type label = some (.property info))
      (writable : info.isWritable = true) :
    Walks accessor request world before [.name label] holder declared owner
      ⟨before ++ [.name label], info.type, [ref],
        fun value => [⟨before ++ [.name label], ref, info, value⟩], none⟩ world
  | throughProperty (world middle after : World) (before : List Segment) (label : String)
      (next : Segment) (later : List Segment) (holder child : Value) (declared : DeclaredType)
      (owner : TypeRef) (ref : BeanRef) (info : PropertyInfo) (plan : Plan)
      (core : holder.core = .bean ref)
      (names : accessor.capability? ref.type label = some (.property info))
      (readable : info.isReadable = true)
      (enters : (accessor.enter request (before ++ [.name label]) ref info).runOn world =
        (.ok child, middle))
      (walks : Walks accessor request middle (before ++ [.name label]) (next :: later) child
        info.type ref.type plan after) :
    Walks accessor request world before (.name label :: next :: later) holder declared owner
      (plan.behindProperty (before ++ [.name label]) ref info) after
  | slot (world middle : World) (before : List Segment) (segment : Segment) (holder slot : Value)
      (rebuild : Value → Value) (declared : DeclaredType) (owner : TypeRef)
      (opens : accessor.Opens request before holder declared owner world segment slot rebuild
        middle) :
    Walks accessor request world before [segment] holder declared owner
      ⟨before ++ [segment], declared.element, [], fun _ => [], some rebuild⟩ middle
  | throughSlot (world middle entered after : World) (before : List Segment)
      (segment next : Segment) (later : List Segment) (holder slot child : Value)
      (rebuild : Value → Value) (declared : DeclaredType) (owner : TypeRef) (plan : Plan)
      (opens : accessor.Opens request before holder declared owner world segment slot rebuild
        middle)
      (enters : (accessor.enterSlot request (before ++ [segment]) owner declared.element
        slot).runOn middle = (.ok child, entered))
      (walks : Walks accessor request entered (before ++ [segment]) (next :: later) child
        declared.element owner plan after) :
    Walks accessor request world before (segment :: next :: later) holder declared owner
      (plan.inCollection child rebuild) after

section

variable {accessor : Accessor} {request : WriteRequest} {schema : Schema}

/-- Nothing can be walked into a text. -/
theorem planInto_text (text : String) (later before : List Segment) (segment : Segment)
    (declared : DeclaredType) (owner : TypeRef) (world : World) :
    (accessor.planInto request before segment later (.text text) declared owner).FailsOn world := by
  cases later <;> exact .throw _ world

/-- What is read of a type handle is a text. -/
theorem enter_handle (plain : accessor.registry.Plain schema) {world : World} {described : TypeRef}
    {label : String} {info : PropertyInfo}
    (names : accessor.capability? TypeHandle.type label = some (.property info))
    (readable : info.isReadable = true) (walked : List Segment) :
    let added := world.add (TypeHandle.bean described)
    (accessor.enter request walked added.1 info).FailsOn added.2 ∨
      ∃ text, (accessor.enter request walked added.1 info).runOn added.2 =
        (.ok (.text text), added.2) := by
  intro added
  obtain ⟨field, type, typed, shows⟩ := shows_of_capability? plain names
  obtain ⟨rfl, text, found⟩ := Schema.field?_handle typed described
  have has : added.2.Has added.1 := World.has_add world _
  have shown : added.2.shown added.1 field = .text text := by
    simp [World.shown, added, World.bean_add, Bean.fieldValue, found, Field.toValue,
      FieldType.toValue]
  have read := runOn_read shows readable has walked
  by_cases held : added.2.isHeldExclusively added.1
  · rw [if_pos held] at read
    exact .inl (.bind ⟨_, _, read, .refl _ _⟩ _)
  · rw [if_neg held, shown] at read
    exact .inr ⟨text, runOn_enter_of_read read rfl⟩

/-- A walk into a new type handle fails. -/
theorem planInto_handle (plain : accessor.registry.Plain schema) (later : List Segment) :
    ∀ (before : List Segment) (segment : Segment) (declared : DeclaredType) (owner : TypeRef)
      (world : World) (described : TypeRef),
      (accessor.planInto request before segment later
        (.bean (world.add (TypeHandle.bean described)).1) declared owner).FailsOn
        (world.add (TypeHandle.bean described)).2 := by
  induction later with
  | nil =>
    intro before segment declared owner world described
    cases segment with
    | key label quoted => exact .throw _ _
    | name label =>
      have isHandle : (world.add (TypeHandle.bean described)).1.type = TypeHandle.type := rfl
      simp only [planInto, planStep, Value.core, planLast, isHandle]
      cases names : accessor.capability? TypeHandle.type label with
      | none => exact .throw _ _
      | some found =>
        cases found with
        | handle => exact .throw _ _
        | property info =>
          have sealed := plain.handles _ _ (describe?_of_capability? names)
          simp only [sealed, Bool.false_eq_true, ↓reduceIte]
          exact .throw _ _
  | cons next later ih =>
    intro before segment declared owner world described
    cases segment with
    | key label quoted => exact .throw _ _
    | name label =>
      have isHandle : (world.add (TypeHandle.bean described)).1.type = TypeHandle.type := rfl
      simp only [planInto, planStep, Value.core, planBelow, isHandle]
      cases names : accessor.capability? TypeHandle.type label with
      | none => exact .throw _ _
      | some found =>
        cases found with
        | handle =>
          refine .bind_of_ok (runOn_handleCursor _ _) (.of_add _ _) (.bind ?_ _)
          exact ih _ _ _ _ _ _
        | property info =>
          by_cases readable : info.isReadable
          · simp only [readable, ↓reduceIte]
            rcases enter_handle plain names readable (before ++ [.name label]) with
              fails | ⟨text, entered⟩
            · exact .bind fails _
            · exact .bind_of_ok entered (.refl _ _) (.bind (planInto_text _ _ _ _ _ _ _) _)
          · simp only [readable, Bool.false_eq_true, ↓reduceIte]
            exact .throw _ _

/-- A walk into a collection that succeeds opens a slot of it. -/
theorem planStep_opens {before : List Segment} {segment : Segment} {walk? : Option Walk}
    {holder : Value} {declared : DeclaredType} {owner : TypeRef} {world after : World} {plan : Plan}
    (done : (accessor.planStep request before segment walk? holder declared owner).runOn world =
      (.ok plan, after)) (noBean : ∀ ref, holder.core ≠ .bean ref) :
    ∃ slot rebuild middle,
      accessor.Opens request before holder declared owner world segment slot rebuild middle ∧
      (accessor.planSlot request (before ++ [segment]) owner declared.element slot rebuild
        walk?).runOn middle = (.ok plan, after) := by
  simp only [planStep] at done
  split at done
  case h_1 ref label core => exact absurd core (noBean ref)
  case h_2 ref core _ => exact absurd core (noBean ref)
  case h_3 items key quoted core =>
    cases isIndex : listIndex? key with
    | none => simp [listIndex, isIndex] at done
    | some index =>
      simp only [listIndex, isIndex, pure_bind] at done
      obtain ⟨extended, middle, lengthens, done⟩ := Access.runOn_bind_eq_ok_iff.1 done
      have opens := Opens.list key quoted items extended index middle core isIndex lengthens
      exact ⟨_, _, middle, opens, done⟩
  case h_4 entries key quoted core =>
    exact ⟨_, _, world, .map key quoted entries core, done⟩
  case h_5 => simp at done

/-- A walk that succeeds goes step by step. -/
theorem planInto_walks (plain : accessor.registry.Plain schema) (later : List Segment) :
    ∀ (before : List Segment) (segment : Segment) (holder : Value) (declared : DeclaredType)
      (owner : TypeRef) (world after : World) (plan : Plan),
      (accessor.planInto request before segment later holder declared owner).runOn world =
        (.ok plan, after) →
      accessor.Walks request world before (segment :: later) holder declared owner plan after := by
  induction later with
  | nil =>
    intro before segment holder declared owner world after plan done
    rcases holder.core.not_bean_or_bean with noBean | ⟨ref, core⟩
    · obtain ⟨slot, rebuild, middle, opens, done⟩ := planStep_opens done noBean
      simp only [planSlot, Access.runOn_pure, Prod.mk.injEq, Except.ok.injEq] at done
      obtain ⟨rfl, rfl⟩ := done
      exact .slot world _ before segment holder slot rebuild declared owner opens
    · cases segment with
      | key label quoted => simp [planInto, planStep, core] at done
      | name label =>
        simp only [planInto, planStep, core, planLast] at done
        split at done
        case h_1 info names =>
          by_cases writable : info.isWritable
          · simp only [writable, ↓reduceIte, Access.runOn_pure, Prod.mk.injEq,
              Except.ok.injEq] at done
            obtain ⟨rfl, rfl⟩ := done
            exact .property world before label holder declared owner ref info core names writable
          · simp [writable] at done
        case h_2 => simp at done
  | cons next later ih =>
    intro before segment holder declared owner world after plan done
    rcases holder.core.not_bean_or_bean with noBean | ⟨ref, core⟩
    · obtain ⟨slot, rebuild, middle, opens, done⟩ := planStep_opens done noBean
      obtain ⟨child, entered, enters, done⟩ := Access.runOn_bind_eq_ok_iff.1 done
      obtain ⟨sub, last, walked, done⟩ := Access.runOn_bind_eq_ok_iff.1 done
      simp only [Access.runOn_pure, Prod.mk.injEq, Except.ok.injEq] at done
      obtain ⟨rfl, rfl⟩ := done
      exact .throughSlot world middle entered _ before segment next later holder slot child rebuild
        declared owner sub opens enters (ih _ _ _ _ _ _ _ _ walked)
    · cases segment with
      | key label quoted => simp [planInto, planStep, core] at done
      | name label =>
        simp only [planInto, planStep, core, planBelow] at done
        split at done
        case h_1 info names =>
          by_cases readable : info.isReadable
          · simp only [readable, ↓reduceIte] at done
            obtain ⟨child, middle, enters, done⟩ := Access.runOn_bind_eq_ok_iff.1 done
            obtain ⟨sub, last, walked, done⟩ := Access.runOn_bind_eq_ok_iff.1 done
            simp only [Access.runOn_pure, Prod.mk.injEq, Except.ok.injEq] at done
            obtain ⟨rfl, rfl⟩ := done
            exact .throughProperty world middle _ before label next later holder child declared
              owner ref info sub core names readable enters (ih _ _ _ _ _ _ _ _ walked)
          · simp [readable] at done
        case h_2 names =>
          rw [Access.runOn_bind_of_ok (runOn_handleCursor _ _)] at done
          obtain ⟨sub, last, walked, -⟩ := Access.runOn_bind_eq_ok_iff.1 done
          have fails : (accessor.planInto request (before ++ [.name label]) next later
              (.bean (world.add (TypeHandle.bean ref.type)).1) (.bean TypeHandle.type)
              ref.type).FailsOn (world.add (TypeHandle.bean ref.type)).2 :=
            planInto_handle plain later _ _ _ _ _ _
          obtain ⟨error, _, failed, -⟩ := fails
          rw [failed] at walked
          simp at walked
        case h_3 => simp at done

/-- Each step of a successful walk is one of the walk over the segments. -/
theorem Walks.run {world after : World} {before segments : List Segment} {holder : Value}
    {declared : DeclaredType} {owner : TypeRef} {plan : Plan}
    (walks : accessor.Walks request world before segments holder declared owner plan after)
    {segment : Segment} {rest : List Segment} (split : segments = segment :: rest) :
    (accessor.planInto request before segment rest holder declared owner).runOn world =
      (.ok plan, after) := by
  induction walks generalizing segment rest with
  | property world before label holder declared owner ref info core names writable =>
    obtain ⟨rfl, rfl⟩ := List.cons.inj split
    simp [planInto, planStep, core, planLast, names, writable]
  | throughProperty world middle after before label next later holder child declared owner ref info
      plan core names readable enters walks ih =>
    obtain ⟨rfl, rfl⟩ := List.cons.inj split
    simp only [planInto, planStep, core, planBelow, names, readable, ↓reduceIte]
    rw [Access.runOn_bind_of_ok enters, Access.runOn_bind_of_ok (ih rfl), Access.runOn_pure]
  | slot world middle before segment holder slot rebuild declared owner opens =>
    obtain ⟨rfl, rfl⟩ := List.cons.inj split
    cases opens with
    | list key quoted items extended index _ core isIndex lengthens =>
      simp only [planInto, planStep, core, listIndex, isIndex, pure_bind]
      rw [Access.runOn_bind_of_ok lengthens]
      rfl
    | map key quoted entries core =>
      simp only [planInto, planStep, core]
      rfl
  | throughSlot world middle entered after before segment next later holder slot child rebuild
      declared owner plan opens enters walks ih =>
    obtain ⟨rfl, rfl⟩ := List.cons.inj split
    have below (slot' : Value) (same : slot' = slot) (remake : Value → Value) :
        (accessor.planSlot request (before ++ [segment]) owner declared.element slot' remake
          (some (accessor.planInto request (before ++ [segment]) next later))).runOn middle =
          (.ok (plan.inCollection child remake), after) := by
      rw [planSlot, same, Access.runOn_bind_of_ok enters, Access.runOn_bind_of_ok (ih rfl),
        Access.runOn_pure]
    cases opens with
    | list key quoted items extended index _ core isIndex lengthens =>
      simp only [planInto, planStep, core, listIndex, isIndex, pure_bind]
      rw [Access.runOn_bind_of_ok lengthens]
      exact below _ rfl _
    | map key quoted entries core =>
      simp only [planInto, planStep, core]
      exact below _ rfl _

/-- A name is planned for on a bean, whatever else is known of its slot. -/
theorem planInto_bean {before : List Segment} {holder : Value} {ref : BeanRef}
    (core : holder.core = .bean ref) (label : String) (rest : List Segment)
    (declared : DeclaredType) (owner : TypeRef) :
    accessor.planInto request before (.name label) rest holder declared owner =
      accessor.planInto request before (.name label) rest (.bean ref) (.bean ref.type)
        ref.type := by
  cases rest <;> simp only [planInto, planStep, core] <;> rfl

/-! ## Slots -/

/-- As many elements are made as are asked for. -/
theorem length_fillers {walked : List Segment} {owner : TypeRef} {element : DeclaredType}
    {count : Nat} {world after : World} {skipped : List Value}
    (done : (accessor.fillers walked owner element count).runOn world = (.ok skipped, after)) :
    skipped.length = count := by
  induction count generalizing world after skipped with
  | zero =>
    simp only [fillers, Access.runOn_pure, Prod.mk.injEq, Except.ok.injEq] at done
    simp [← done.1]
  | succ count ih =>
    obtain ⟨first, middle, -, done⟩ := Access.runOn_bind_eq_ok_iff.1 done
    obtain ⟨rest, last, filled, done⟩ := Access.runOn_bind_eq_ok_iff.1 done
    simp only [Access.runOn_pure, Prod.mk.injEq, Except.ok.injEq] at done
    simp [← done.1, ih filled]

/-- A list that was extended to an index has a slot there. -/
theorem lt_length_of_extendTo {before : List Segment} {segment : Segment} {owner : TypeRef}
    {element : DeclaredType} {index : Nat} {items extended : List Value} {world after : World}
    (done : (accessor.extendTo request before segment owner element index items).runOn world =
      (.ok extended, after)) : index < extended.length := by
  by_cases inside : index < items.length
  · simp only [extendTo, inside, ↓reduceIte, Access.runOn_pure, Prod.mk.injEq,
      Except.ok.injEq] at done
    exact done.1 ▸ inside
  · simp only [extendTo, inside, ↓reduceIte] at done
    split at done
    · simp at done
    · split at done
      · simp at done
      · obtain ⟨_, _, -, done⟩ := Access.runOn_bind_eq_ok_iff.1 done
        obtain ⟨skipped, _, filled, done⟩ := Access.runOn_bind_eq_ok_iff.1 done
        simp only [Access.runOn_pure, Prod.mk.injEq, Except.ok.injEq] at done
        have count := length_fillers filled
        rw [← done.1]
        simp only [List.length_append, List.length_singleton, count]
        omega

/-- The key leads to what the collection is made with. -/
theorem Opens.slot?_rebuild {before : List Segment} {segment : Segment} {holder slot : Value}
    {rebuild : Value → Value} {declared : DeclaredType} {owner : TypeRef} {world middle : World}
    (opens : accessor.Opens request before holder declared owner world segment slot rebuild middle)
    (value : Value) : (rebuild value).slot? segment = some value := by
  cases opens with
  | list key quoted items extended index middle core isIndex lengthens =>
    have bounded := lt_length_of_extendTo lengthens
    simp [Value.slot?, Value.core, isIndex, bounded]
  | map key quoted entries core =>
    simp [Value.slot?, Value.core]

/-- No slot of a bean is opened. -/
theorem Opens.core_ne_bean {before : List Segment} {segment : Segment} {holder slot : Value}
    {rebuild : Value → Value} {declared : DeclaredType} {owner : TypeRef} {world middle : World}
    (opens : accessor.Opens request before holder declared owner world segment slot rebuild middle)
    (ref : BeanRef) : holder.core ≠ .bean ref := by
  cases opens with
  | list key quoted items extended index middle core => simp [core]
  | map key quoted entries core => simp [core]

/-- Nothing is put back behind a bean, and something behind everything else. -/
theorem Walks.copy?_eq_none_iff {world after : World} {before segments : List Segment}
    {holder : Value} {declared : DeclaredType} {owner : TypeRef} {plan : Plan}
    (walks : accessor.Walks request world before segments holder declared owner plan after) :
    plan.copy? = none ↔ ∃ ref, holder.core = .bean ref := by
  cases walks with
  | property _ _ _ _ _ _ ref _ core => exact iff_of_true rfl ⟨ref, core⟩
  | throughProperty _ _ _ _ _ _ _ _ _ _ _ ref _ _ core => exact iff_of_true rfl ⟨ref, core⟩
  | slot _ _ _ _ _ _ _ _ _ opens => simp [opens.core_ne_bean]
  | throughSlot _ _ _ _ _ _ _ _ _ _ _ _ _ _ _ opens =>
    simp [Plan.inCollection, opens.core_ne_bean]

/-- A walk that goes on from a bean goes on with a name. -/
theorem Walks.isName {world after : World} {before later : List Segment} {segment : Segment}
    {holder : Value} {declared : DeclaredType} {owner : TypeRef} {ref : BeanRef} {plan : Plan}
    (walks : accessor.Walks request world before (segment :: later) holder declared owner plan
      after) (core : holder.core = .bean ref) : segment.isName = true := by
  cases walks with
  | property => rfl
  | throughProperty => rfl
  | slot _ _ _ _ _ _ _ _ _ opens => exact absurd core (opens.core_ne_bean ref)
  | throughSlot _ _ _ _ _ _ _ _ _ _ _ _ _ _ _ opens =>
    exact absurd core (opens.core_ne_bean ref)

/-- A walk along keys alone ends in a copy of the collection in which they lead to the value. -/
theorem Walks.copy_of_keys {world after : World} {before segments : List Segment} {holder : Value}
    {declared : DeclaredType} {owner : TypeRef} {plan : Plan}
    (walks : accessor.Walks request world before segments holder declared owner plan after)
    (keys : ∀ segment ∈ segments, segment.isName = false) :
    (∀ value, plan.puts value = []) ∧
      ∃ copy, plan.copy? = some copy ∧ ∀ value, (copy value).follow? segments = some value := by
  induction walks with
  | property => simp [Segment.isName] at keys
  | throughProperty => simp [Segment.isName] at keys
  | slot _ _ _ _ _ _ rebuild _ _ opens =>
    exact ⟨fun _ => rfl, rebuild, rfl, fun value => by
      simp [Value.follow?, opens.slot?_rebuild value]⟩
  | throughSlot _ _ _ _ _ _ _ _ _ _ child rebuild _ _ plan opens _ _ ih =>
    obtain ⟨noPuts, copy, copies, follows⟩ := ih fun segment among =>
      keys segment (List.mem_cons_of_mem _ among)
    refine ⟨noPuts, fun value => rebuild (copy value), ?_, fun value => ?_⟩
    · simp [Plan.inCollection, copies]
    · rw [Value.follow?, opens.slot?_rebuild, Option.bind_some, follows]

/-- A walk has resolved as many names on beans as there are in the row of segments. -/
theorem Walks.length_holders {world after : World} {before segments : List Segment}
    {holder : Value} {declared : DeclaredType} {owner : TypeRef} {plan : Plan}
    (walks : accessor.Walks request world before segments holder declared owner plan after) :
    plan.holders.length = (segments.filter Segment.isName).length := by
  have isKey : ∀ {before segment holder declared owner world slot rebuild middle},
      accessor.Opens request before holder declared owner world segment slot rebuild middle →
      segment.isName = false := by
    intro before segment holder declared owner world slot rebuild middle opens
    cases opens <;> rfl
  induction walks with
  | property => rfl
  | throughProperty _ _ _ _ _ _ _ _ _ _ _ _ _ _ _ _ _ _ _ ih =>
    rw [List.filter_cons_of_pos (by rfl), List.length_cons, ← ih]
    rfl
  | slot _ _ _ _ _ _ _ _ _ opens => simp [isKey opens]
  | throughSlot _ _ _ _ _ _ _ _ _ _ _ _ _ _ _ opens _ _ ih =>
    rw [List.filter_cons_of_neg (by simp [isKey opens])]
    exact ih

/-! ## Writes with options -/

/-- The old value, if that is asked for. -/
def oldValue (accessor : Accessor) (options : AccessOptions) (root : BeanRef)
    (path : PropertyPath) : Access (Option Value) :=
  if options.extractOldValue then accessor.readOld root path else pure none

/-- A write reads the old value, writes at its path and tells of both. -/
theorem setWith_eq_bind (options : AccessOptions) (root : BeanRef) (path : PropertyPath)
    (raw : Value) :
    accessor.setWith options root path raw = do
      let oldValue? ← accessor.oldValue options root path
      let newValue ← accessor.writePath options root path raw
      return ⟨path.text, oldValue?, newValue⟩ := by
  by_cases extracts : options.extractOldValue <;> simp [setWith, oldValue, extracts]

/-- The old value is what the read gives, if it is asked for and read. -/
theorem oldValue_runs_of_evolves {world : World} {root : BeanRef} {path : PropertyPath}
    (evolves : world.EvolvesTo [] ((accessor.get root path).runOn world).2)
    (options : AccessOptions) :
    ∃ middle, (accessor.oldValue options root path).runOn world =
        (.ok (if options.extractOldValue then ((accessor.get root path).runOn world).1.toOption
          else none), middle) ∧ world.EvolvesTo [] middle := by
  by_cases extracts : options.extractOldValue
  case neg => exact ⟨world, by simp [oldValue, extracts], .refl _ _⟩
  rw [oldValue, if_pos extracts, if_pos extracts, readOld, Access.runOn_tryCatch, Access.runOn_map]
  rcases run : (accessor.get root path).runOn world with ⟨(error | value), after⟩
  all_goals rw [run] at evolves
  · exact ⟨_, rfl, evolves.trans (.of_record after _)⟩
  · exact ⟨after, rfl, evolves⟩

/-- A write reads the old value and then writes at the path. -/
theorem runOn_setWith {world middle : World} {root : BeanRef} {options : AccessOptions}
    {path : PropertyPath} {oldValue? : Option Value}
    (read : (accessor.oldValue options root path).runOn world = (.ok oldValue?, middle))
    (raw : Value) :
    (accessor.setWith options root path raw).runOn world =
      (((accessor.writePath options root path raw).runOn middle).1.map
          fun value => ⟨path.text, oldValue?, value⟩,
        ((accessor.writePath options root path raw).runOn middle).2) := by
  rw [setWith_eq_bind, Access.runOn_bind_of_ok read, Access.runOn_bind]
  cases ((accessor.writePath options root path raw).runOn middle).1 <;> rfl

/-- Once the path is planned, a write converts the raw value and carries out the plan. -/
theorem runOn_setWith_of_plan {world start right : World} {root : BeanRef}
    {options : AccessOptions} {path : PropertyPath} {raw : Value} {oldValue? : Option Value}
    {plan : Plan}
    (read : (accessor.oldValue options root path).runOn world = (.ok oldValue?, start))
    (planned : (accessor.planPath ⟨raw, options⟩ root path).runOn start = (.ok plan, right)) :
    (accessor.setWith options root path raw).runOn world =
      match convertTo accessor.converter raw plan.target with
      | .ok value => (((putAll (plan.puts value)).runOn right).1.map
          fun _ => ⟨path.text, oldValue?, value⟩, ((putAll (plan.puts value)).runOn right).2)
      | .error cause => (.error (.typeMismatch (Segment.render plan.walked) cause), right) := by
  rw [runOn_setWith read, writePath_eq_plan, Access.runOn_bind_of_ok planned, Access.runOn_bind,
    runOn_convertRaw]
  cases convertTo accessor.converter raw plan.target with
  | error cause => rfl
  | ok value =>
    simp only [Access.mapError_ok, Access.runOn_bind]
    rcases (putAll (plan.puts value)).runOn right with ⟨(error | _), after⟩ <;> rfl

/-- A write whose path is not planned fails like that. -/
theorem runOn_setWith_of_unplanned {world start right : World} {root : BeanRef}
    {options : AccessOptions} {path : PropertyPath} {raw : Value} {oldValue? : Option Value}
    {error : AccessError}
    (read : (accessor.oldValue options root path).runOn world = (.ok oldValue?, start))
    (planned : (accessor.planPath ⟨raw, options⟩ root path).runOn start = (.error error, right)) :
    (accessor.setWith options root path raw).runOn world = (.error error, right) := by
  rw [runOn_setWith read, writePath_eq_plan, Access.runOn_bind_of_error planned]
  rfl

/-- A write reads the old value, which adds at most type handles to the world, and then writes at
the path. -/
theorem setWith_runs (plain : accessor.registry.Plain schema) {world after : World}
    (fits : schema.Fits world) {root : BeanRef} (has : world.Has root) {options : AccessOptions}
    {path : PropertyPath} {raw : Value} {outcome : Except AccessError PropertyChange}
    (run : (accessor.setWith options root path raw).runOn world = (outcome, after)) :
    ∃ oldValue? middle written,
      (accessor.oldValue options root path).runOn world = (.ok oldValue?, middle) ∧
      world.EvolvesTo [] middle ∧ schema.Fits middle ∧
      (accessor.writePath options root path raw).runOn middle = (written, after) ∧
      outcome = written.map fun value => ⟨path.text, oldValue?, value⟩ := by
  obtain ⟨oldValue?, middle, read, evolves, fits⟩ : ∃ oldValue? middle,
      (accessor.oldValue options root path).runOn world = (.ok oldValue?, middle) ∧
        world.EvolvesTo [] middle ∧ schema.Fits middle := by
    rw [oldValue]
    by_cases extracts : options.extractOldValue
    · rw [if_pos extracts]
      exact runOn_readOld plain fits has path
    · rw [if_neg extracts]
      exact ⟨none, world, rfl, .refl _ _, fits⟩
  rw [runOn_setWith read] at run
  obtain ⟨rfl, rfl⟩ := Prod.mk.inj run
  exact ⟨oldValue?, middle, _, read, evolves, fits, rfl, rfl⟩

end

end PropertyGraph.Accessor
