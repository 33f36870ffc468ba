import PropertyGraph.Proofs.Access.Fields

/-!
# Reading adds nothing but type handles

A read changes no bean that was there: the getters of fields leave their beans alone, and all that
comes in are handles of types. What is read is a value of the world.
-/
namespace PropertyGraph.Accessor

open Access (AddsOn)

variable {accessor : Accessor} {schema : Schema} {world : World}

/-- Reads a row of segments from the value under a cursor. -/
def readFrom (accessor : Accessor) (cursor : Cursor) (before : List Segment) (segment : Segment)
    (later : List Segment) : Access Value := do
  let parent ← accessor.navigate cursor before segment later
  let cursor ← accessor.step parent.cursor parent.before parent.last
  pure cursor.value.unwrapped

/-- A step from a value of the world leads to one. -/
theorem step_adds (plain : accessor.registry.Plain schema) (fits : schema.Fits world)
    (cursor : Cursor) (before : List Segment) (segment : Segment)
    (admitted : world.Admits cursor.value) :
    AddsOn schema (accessor.step cursor before segment) world
      fun next after => after.Admits next.value := by
  have inside := admitted.core
  simp only [step, Value.unwrapped_eq_core]
  by_cases absent : cursor.value.core.isAbsent
  · simp only [absent, ↓reduceIte]
    exact .throw fits _
  simp only [absent, Bool.false_eq_true, ↓reduceIte]
  split
  case h_1 ref name core =>
    have has : world.Has ref := (core ▸ inside).has
    simp only [readName]
    split
    case h_1 info names =>
      obtain ⟨field, type, typed, shows⟩ := shows_of_capability? plain names
      obtain ⟨content, -, -, admitted'⟩ := fits.shown has typed
      split
      case isTrue readable =>
        refine .bind (fun value after => after.Admits value)
          ⟨_, world, runOn_read shows readable has _, .refl _ _, fits, ?_⟩ ?_
        · intro value same
          split at same
          · simp at same
          · exact Except.ok.inj same ▸ admitted'
        · intro value middle _ fits told
          exact .pure fits told
      case isFalse => exact .throw fits _
    case h_2 =>
      refine ⟨_, _, runOn_handleCursor _ _, .of_add _ _, fits.of_handle _, ?_⟩
      intro next same
      exact Except.ok.inj same ▸ .bean _ (World.has_add _ _)
    case h_3 => exact .throw fits _
  case h_2 items key quoted core =>
    simp only [listIndex]
    split
    · simp only [pure_bind]
      split
      · next value found => exact .pure fits ((core ▸ inside).item (List.mem_of_getElem? found))
      · exact .throw fits _
    · exact .throw fits _
  case h_3 entries key quoted core =>
    refine .pure fits ?_
    cases found : Entries.find? key entries with
    | none => exact .atomic _ rfl
    | some value => exact (core ▸ inside).entry (Entries.mem_of_find? found)
  case h_4 => exact .throw fits _

/-- Navigation leaves all that was there, and what it comes to is good. -/
theorem navigate_adds (plain : accessor.registry.Plain schema) (later : List Segment) :
    ∀ (world : World) (cursor : Cursor) (before : List Segment) (segment : Segment),
      schema.Fits world → world.Admits cursor.value →
      AddsOn schema (accessor.navigate cursor before segment later) world
        fun parent after => after.Admits parent.cursor.value := by
  induction later with
  | nil =>
    intro world cursor before segment fits admitted
    exact .pure fits admitted
  | cons next later ih =>
    intro world cursor before segment fits admitted
    refine .bind _ (step_adds plain fits cursor before segment admitted) ?_
    intro cursor' middle _ fits admitted
    split
    · exact .throw fits _
    · exact ih middle cursor' _ next fits admitted

/-- A read changes no bean that was there. -/
theorem get_adds (plain : accessor.registry.Plain schema) (fits : schema.Fits world)
    {root : BeanRef} (has : world.Has root) (path : PropertyPath) :
    AddsOn schema (accessor.get root path) world fun _ _ => True := by
  refine .bind _ (navigate_adds plain path.later world (.root root) [] path.first fits
    (.bean root has)) ?_
  intro parent middle _ fits admitted
  refine .bind _ (step_adds plain fits parent.cursor parent.before parent.last admitted) ?_
  intro cursor after _ fits _
  exact .pure fits trivial

/-- A name that can only be a property that shows a field is read without changing a bean. -/
theorem readName_keeps {ref : BeanRef} {label : String}
    (shows : ∀ info, accessor.capability? ref.type label = some (.property info) →
      ∃ field type, info.ShowsField ref.type field type) (walked : List Segment) :
    (accessor.readName walked ref label).Keeps := by
  unfold readName
  split
  case h_1 info names =>
    obtain ⟨field, type, shows⟩ := shows info names
    split
    case isTrue =>
      refine .bind (fun world => ?_) fun _ => .pure _
      rw [Access.runOn_invoke, shows.world_read]
      exact .refl _ _
    case isFalse => exact .throw _
  case h_2 =>
    intro world
    rw [runOn_handleCursor]
    exact .of_add _ _
  case h_3 => exact .throw _

/-- A key is read without changing a bean, whatever properties there are. -/
theorem step_key_keeps (cursor : Cursor) (before : List Segment) (key : String) (quoted : Bool) :
    (accessor.step cursor before (.key key quoted)).Keeps := by
  unfold step
  split
  case h_1 isName => cases isName
  case h_2 =>
    unfold listIndex
    split
    · rw [pure_bind]
      split
      · exact .pure _
      · exact .throw _
    · exact .throw _
  case h_3 => exact .pure _
  case h_4 => exact .throw _

/-- A step changes no bean that is there, whether the world fits or not. -/
theorem step_keeps (plain : accessor.registry.Plain schema) (cursor : Cursor)
    (before : List Segment) (segment : Segment) : (accessor.step cursor before segment).Keeps := by
  cases segment with
  | key key quoted => exact step_key_keeps cursor before key quoted
  | name label =>
    unfold step
    split
    case h_1 ref label' _ _ =>
      refine readName_keeps (fun info names => ?_) _
      obtain ⟨field, type, -, shows⟩ := shows_of_capability? plain names
      exact ⟨field, type, shows⟩
    case h_2 isKey => cases isKey
    case h_3 isKey => cases isKey
    case h_4 => exact .throw _

/-- Navigation leaves all that was there in every world, fitting or not. -/
theorem navigate_keeps (plain : accessor.registry.Plain schema) (later : List Segment) :
    ∀ (cursor : Cursor) (before : List Segment) (segment : Segment),
      (accessor.navigate cursor before segment later).Keeps := by
  induction later with
  | nil => exact fun _ _ _ => .pure _
  | cons next later ih =>
    intro cursor before segment
    refine (step_keeps plain cursor before segment).bind fun cursor => ?_
    by_cases absent : cursor.value.isAbsent
    · simp only [absent, ↓reduceIte, Access.throw_bind]
      exact .throw _
    · simp only [absent, Bool.false_eq_true, ↓reduceIte]
      exact ih _ _ _

/-- A read changes no bean that is there, whether the world fits or not. -/
theorem get_keeps (plain : accessor.registry.Plain schema) (root : BeanRef)
    (path : PropertyPath) : (accessor.get root path).Keeps :=
  (navigate_keeps plain path.later _ _ _).bind fun _ =>
    (step_keeps plain _ _ _).bind fun _ => .pure _

/-- A read along keys changes no bean, if its first step changes none. -/
theorem readFrom_keeps_of_keys (keys : List Segment) :
    ∀ (cursor : Cursor) (before : List Segment) (first : Segment),
      (∀ segment ∈ keys, segment.isName = false) → (accessor.step cursor before first).Keeps →
      (accessor.readFrom cursor before first keys).Keeps := by
  induction keys with
  | nil =>
    intro cursor before first _ keeps
    exact keeps.bind fun _ => .pure _
  | cons next keys ih =>
    intro cursor before first areKeys keeps
    rw [readFrom, navigate, bind_assoc]
    refine keeps.bind fun reached => ?_
    by_cases absent : reached.value.isAbsent
    · simp only [absent, ↓reduceIte, Access.throw_bind]
      exact .throw _
    · simp only [absent, Bool.false_eq_true, ↓reduceIte]
      obtain ⟨isKey, later⟩ := List.forall_mem_cons.1 areKeys
      cases next with
      | name label => cases isKey
      | key key quoted => exact ih _ _ _ later (step_key_keeps _ _ key quoted)

/-- A path of keys behind a name is read without changing a bean, if the name can only be a property
that shows a field. -/
theorem get_keeps_of_keys {root : BeanRef} {label : String} {keys : List Segment}
    (areKeys : ∀ segment ∈ keys, segment.isName = false)
    (shows : ∀ info, accessor.capability? root.type label = some (.property info) →
      ∃ field type, info.ShowsField root.type field type) :
    (accessor.get root ⟨.name label, keys⟩).Keeps :=
  readFrom_keeps_of_keys keys (.root root) [] (.name label) areKeys (readName_keeps shows _)

/-- Reading the old value never fails, and changes no bean that was there. -/
theorem runOn_readOld (plain : accessor.registry.Plain schema) (fits : schema.Fits world)
    {root : BeanRef} (has : world.Has root) (path : PropertyPath) :
    ∃ oldValue? after, (accessor.readOld root path).runOn world = (.ok oldValue?, after) ∧
      world.EvolvesTo [] after ∧ schema.Fits after := by
  obtain ⟨outcome, after, run, evolves, fits, -⟩ := get_adds plain fits has path
  have caught := Access.runOn_tryCatch (some <$> accessor.get root path) (fun error => do
    Access.record (.oldValueUnread path.text error.message)
    return none) world
  rw [Access.runOn_map, run] at caught
  cases outcome with
  | ok value => exact ⟨_, after, caught, evolves, fits⟩
  | error error =>
    exact ⟨none, after.record (.oldValueUnread path.text error.message), caught,
      evolves.trans (.of_record after _), fits.of_record _⟩

end PropertyGraph.Accessor
