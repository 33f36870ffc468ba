import PropertyGraph.Proofs.Read.Declared
import PropertyGraph.Proofs.Write.Locality

/-!
# Walks that are resumed

A walk without growth can be cut at the last name of its path. What is behind the cut is a walk of
its own, from the bean that the segments before the name lead to; and where they lead to that bean,
a walk from it is one from the root. Nothing that has only come into the world changes a walk.
-/
namespace PropertyGraph.Accessor

section

variable {accessor : Accessor} {request : WriteRequest} {schema : Schema}
  {world left right after : World} {root ref : BeanRef} {before segments : List Segment}
  {holder : Value} {declared : DeclaredType} {owner : TypeRef} {plan : Plan}

/-! ## In later worlds -/

/-- Without growth a key opens the same slot in every world. -/
theorem Opens.again (off : request.options.growNested = false) {segment : Segment} {slot : Value}
    {rebuild : Value → Value}
    (opens : accessor.Opens request before holder declared owner left segment slot rebuild after) :
    accessor.Opens request before holder declared owner right segment slot rebuild right := by
  cases opens with
  | list key quoted items extended index _ core isIndex lengthens =>
    refine .list key quoted items extended index right core isIndex ?_
    rw [extendTo_quiet off] at lengthens ⊢
    split at lengthens
    case isTrue inside =>
      obtain ⟨rfl, -⟩ : items = extended ∧ left = after := by simpa using lengthens
      rw [if_pos inside, Access.runOn_pure]
    case isFalse => simp at lengthens
  | map key quoted entries core => exact .map key quoted entries core

/-- A walk starts from a value that is present. -/
theorem Walks.present
    (walks : accessor.Walks request world before segments holder declared owner plan after) :
    holder.isAbsent = false := by
  have isPresent : ∀ {segment slot rebuild middle},
      accessor.Opens request before holder declared owner world segment slot rebuild middle →
      holder.isAbsent = false := by
    intro segment slot rebuild middle opens
    cases opens with
    | list _ _ _ _ _ _ core => exact Value.isAbsent_of_core (by rw [core]; rfl)
    | map _ _ _ core => exact Value.isAbsent_of_core (by rw [core]; rfl)
  cases walks with
  | property _ _ _ _ _ _ _ _ core => exact Value.isAbsent_of_core (by rw [core]; rfl)
  | throughProperty _ _ _ _ _ _ _ _ _ _ _ _ _ _ core =>
    exact Value.isAbsent_of_core (by rw [core]; rfl)
  | slot _ _ _ _ _ _ _ _ _ opens => exact isPresent opens
  | throughSlot _ _ _ _ _ _ _ _ _ _ _ _ _ _ _ opens => exact isPresent opens

/-- A walk without growth goes alike in all worlds that the world has become without a change of its
beans. -/
theorem Walks.again (plain : accessor.registry.Plain schema) (fits : schema.Fits world)
    (off : request.options.growNested = false)
    (walks : accessor.Walks request left before segments holder declared owner plan after)
    (admitted : world.Admits holder) (toLeft : world.EvolvesTo [] left)
    (toRight : world.EvolvesTo [] right) :
    accessor.Walks request right before segments holder declared owner plan right := by
  induction walks with
  | property left before label holder declared owner ref info core names writable =>
    exact .property right before label holder declared owner ref info core names writable
  | throughProperty left entered after before label next later holder child declared owner ref info
      plan core names readable enters walks ih =>
    have has : world.Has ref := (core ▸ admitted.core).has
    obtain ⟨field, type, typed, shows⟩ := shows_of_capability? plain names
    obtain ⟨_, -, -, admitted'⟩ := fits.shown has typed
    obtain ⟨rfl, rfl, read⟩ := enters_quiet off shows readable (toLeft.has ref has) enters
    have same : left.shown ref field = world.shown ref field := toLeft.shown has (by simp) field
    have here := read_of_evolves toLeft shows readable has read
    rw [same] at here walks ih
    have there : (Access.invoke (before ++ [.name label]) ref (·.read ref info)).runOn right =
        (.ok (world.shown ref field), right) := by
      rw [runOn_read shows readable has] at here
      rw [runOn_read shows readable (toRight.has ref has),
        World.isHeldExclusively_of_guards toRight.guards, toRight.shown has (by simp),
        (Prod.mk.inj here).1]
    exact .throughProperty right right right before label next later holder _ declared owner ref
      info plan core names readable (runOn_enter_of_read there walks.present) (ih admitted' toLeft)
  | slot left opened before segment holder slot rebuild declared owner opens =>
    exact .slot right right before segment holder slot rebuild declared owner (opens.again off)
  | throughSlot left opened entered after before segment next later holder slot child rebuild
      declared owner plan opens enters walks ih =>
    obtain ⟨rfl, kept⟩ := opens.quiet off admitted
    rw [enterSlot_quiet off] at enters
    split at enters
    case isTrue => simp at enters
    case isFalse present =>
      obtain ⟨rfl, rfl⟩ : slot = child ∧ opened = entered := by simpa using enters
      obtain ⟨found, -⟩ := kept (by simpa using present)
      refine .throughSlot right right right right before segment next later holder slot slot rebuild
        declared owner plan (opens.again off) ?_ (ih (admitted.slot? found) toLeft)
      rw [enterSlot_quiet off, if_neg present, Access.runOn_pure]

/-! ## From the root -/

/-- A row of segments that was come to is read without a change of the world, or beans have come
in. -/
theorem ComesTo.reads_or_lt (plain : accessor.registry.Plain schema) {cursor : Cursor}
    (comes : accessor.ComesTo world root segments cursor after) :
    (after = world ∧ accessor.Reads world root segments cursor) ∨
      world.beans.size < after.beans.size := by
  induction comes with
  | root => exact .inl ⟨rfl, .root⟩
  | step before segment cursor next middle after _ present stepped ih =>
    have further : after = middle ∨ middle.beans.size < after.beans.size := by
      cases takes_of_step stepped with
      | property ref label info value _ _ names _ read =>
        obtain ⟨field, type, -, shows⟩ := shows_of_capability? plain names
        exact .inl ((congrArg Prod.snd read).symm.trans (shows.world_read middle))
      | handle => exact .inr (by simp [World.add])
      | item => exact .inl rfl
      | entry => exact .inl rfl
    rcases ih with ⟨rfl, reads⟩ | more
    · rcases further with rfl | more
      · exact .inl ⟨rfl, .step before segment cursor next reads present stepped⟩
      · exact .inr more
    · rcases further with rfl | more'
      · exact .inr more
      · exact .inr (more.trans more')

/-- Where a row of segments leads to a bean, it is read without a change of the world. -/
theorem Leads.reads (plain : accessor.registry.Plain schema)
    (leads : accessor.Leads world root segments ref) :
    ∃ cursor, accessor.Reads world root segments cursor ∧ cursor.value.core = .bean ref := by
  obtain ⟨cursor, comes, isBean⟩ := leads.comesTo
  rcases comes.reads_or_lt plain with ⟨-, reads⟩ | more
  · exact ⟨cursor, reads, Value.unwrapped_eq_bean_iff.1 isBean⟩
  · exact absurd more (Nat.lt_irrefl _)

/-- A walk from what a row of segments is read as is part of one from the root. -/
theorem Reads.walks (off : request.options.growNested = false) {cursor : Cursor}
    (reads : accessor.Reads world root before cursor) {segment : Segment} {later : List Segment}
    (walks : accessor.Walks request world before (segment :: later) cursor.value cursor.declared
      cursor.owner plan world) :
    ∃ whole, accessor.Walks request world [] (before ++ segment :: later) (.bean root)
      (.bean root.type) root.type whole world := by
  induction reads generalizing segment later plan with
  | root => exact ⟨plan, walks⟩
  | step before first cursor next _ present stepped ih =>
    rw [List.append_assoc]
    obtain ⟨last, same, stepped⟩ : ∃ last, last = world ∧
        (accessor.step cursor before first).runOn world = (.ok next, last) := ⟨_, rfl, stepped⟩
    have entersSlot (slot : Value) (isPresent : slot.isAbsent = false) :
        (accessor.enterSlot request (before ++ [first]) cursor.owner cursor.declared.element
          slot).runOn world = (.ok slot, world) := by
      simp [enterSlot_quiet off, isPresent]
    cases takes_of_step stepped with
    | property ref label info value _ isBean names readable read =>
      subst same
      have entered : (accessor.enter request (before ++ [.name label]) ref info).runOn last =
          (.ok value, last) :=
        runOn_enter_of_read (Access.runOn_invoke_eq_ok_iff.2 read) walks.present
      exact ih (.throughProperty last last last before label segment later cursor.value value _ _
        ref info plan (Value.unwrapped_eq_bean_iff.1 isBean) names readable entered walks)
    | handle ref label =>
      have size := congrArg (·.beans.size) same
      simp [World.add] at size
    | item items key quoted index value isList isIndex found =>
      have inside : index < items.length := (List.getElem?_eq_some_iff.1 found).1
      have lengthens : (accessor.extendTo request before (.key key quoted) cursor.owner
          cursor.declared.element index items).runOn world = (.ok items, world) := by
        simp [extendTo_quiet off, inside]
      have opens := Opens.list key quoted items items index world
        (Value.core_eq_of_unwrapped isList (by simp)) isIndex lengthens
      rw [found] at opens
      exact ih (.throughSlot world world world world before (.key key quoted) segment later
        cursor.value value value _ _ _ plan opens (entersSlot value walks.present) walks)
    | entry entries key quoted isMap =>
      have core : cursor.value.core = .map entries := Value.core_eq_of_unwrapped isMap (by simp)
      have opens : accessor.Opens request before cursor.value cursor.declared cursor.owner world
          (.key key quoted) ((Entries.find? key entries).getD .null)
          (fun slot => (Value.map (Entries.insert key slot entries)).wrap cursor.value.depth)
          world := .map key quoted entries core
      exact ih (.throughSlot world world world world before (.key key quoted) segment later
        cursor.value _ _ _ _ _ plan opens (entersSlot _ walks.present) walks)

variable {path : PropertyPath} {options : AccessOptions} {raw : Value}

/-- A write of the end of a path, at the bean that the segments before it lead to, is the first
thing that a write of the whole path does. -/
theorem Leads.walks_of_writeInto (plain : accessor.registry.Plain schema)
    (fits : schema.Fits world) (off : options.growNested = false) (has : world.Has root)
    {front keys : List Segment} {label : String}
    (segments : path.segments = front ++ .name label :: keys)
    (isKey : ∀ segment ∈ keys, segment.isName = false)
    (leads : accessor.Leads world root front ref) (hasRef : world.Has ref) {written : Written}
    (run : (accessor.writeInto ⟨raw, options⟩ front (.name label) keys (.bean ref)
      (.bean ref.type) ref.type).runOn world = (.ok written, after)) :
    ∃ whole value put pending,
      accessor.Walks ⟨raw, options⟩ world [] path.segments (.bean root) (.bean root.type) root.type
        whole world ∧
      convertTo accessor.converter raw whole.target = .ok value ∧
      whole.puts value = put :: pending ∧
      (putBack put.walked put.ref put.info put.value).runOn world = (.ok (), after) := by
  rw [writeInto_eq_plan] at run
  obtain ⟨tail, middle, planned, run⟩ := Access.runOn_bind_eq_ok_iff.1 run
  obtain ⟨cursor, reads, core⟩ := leads.reads plain
  have fromCursor := planned
  rw [← planInto_bean core label keys cursor.declared cursor.owner] at fromCursor
  have walks := planInto_walks plain keys front (.name label) _ _ _ _ _ _ fromCursor
  have admitted : world.Admits cursor.value := .of_core (core ▸ .bean ref hasRef)
  obtain rfl : world = middle := (walks.quiet plain fits off admitted rfl).symm
  obtain ⟨whole, wholeWalks⟩ := reads.walks off walks
  rw [← segments] at wholeWalks
  -- The tail of the whole walk starts from the bean that the segments lead to: it is this one.
  obtain ⟨info, rebuild, rest, quiet⟩ : ∃ info rebuild rest,
      accessor.QuietPlan world root [] (.bean root) front label keys whole ref info rebuild
        rest := by
    obtain ⟨found, info, rebuild, rest, quiet⟩ := wholeWalks.quietPlan plain fits off (.refl _ _)
      (.bean root has) .at_root front label keys segments isKey
    obtain rfl := quiet.leads.unique leads
    exact ⟨info, rebuild, rest, quiet⟩
  obtain ⟨start, last, put, planned', sameType, only, begins⟩ :=
    wholeWalks.tail plain fits off (.bean root has) segments isKey
  have puts : ∀ value, put value = ⟨front ++ [.name label], ref, info, rebuild value⟩ := by
    intro value
    obtain ⟨-, pending, same⟩ := begins value
    exact (List.cons.inj (same.symm.trans (quiet.puts value))).1
  obtain rfl : ref = start := by
    obtain ⟨same, -⟩ := begins .null
    rw [← same, puts]
  obtain ⟨same, -⟩ := Prod.mk.inj (planned.symm.trans planned')
  obtain rfl := Except.ok.inj same
  rw [carryOut] at run
  obtain ⟨value, unchanged, converts, carried⟩ := Access.runOn_bind_eq_ok_iff.1 run
  obtain ⟨accepted, rfl⟩ := Prod.mk.inj ((runOn_convertRaw _ _ _ _ _).symm.trans converts)
  have converted : convertTo accessor.converter raw whole.target = .ok value := by
    rw [← sameType]
    cases outcome : convertTo accessor.converter raw tail.target with
    | error cause => simp [outcome] at accepted
    | ok result => simpa [outcome] using accepted
  obtain ⟨_, last, stores, returned⟩ := Access.runOn_bind_eq_ok_iff.1 carried
  obtain ⟨-, rfl⟩ := Prod.mk.inj returned
  rw [only] at stores
  obtain ⟨_, done, stored, finished⟩ := Access.runOn_bind_eq_ok_iff.1 stores
  obtain ⟨-, rfl⟩ := Prod.mk.inj finished
  exact ⟨whole, value, put value, rest, wholeWalks, converted, by rw [quiet.puts, puts,
    List.nil_append], stored⟩

end

end PropertyGraph.Accessor
