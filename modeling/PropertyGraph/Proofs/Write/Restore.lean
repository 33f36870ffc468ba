import PropertyGraph.Proofs.Write.Quiet

/-!
# Putting back

What becomes of the collections that a quiet walk has to put back. Each of them was read before
anything was written, so that its property holds again what it held then; no other cell changes. A
row of them that is broken off leaves each cell in one of the two states.
-/
namespace PropertyGraph.Accessor

/-- The put goes into the cell. -/
def Touches (schema : Schema) (put : Put) (ref : BeanRef) (field : String) : Prop :=
  put.ref = ref ∧ ∃ type, schema.field? ref.type field = some type ∧
    put.info.ShowsField ref.type field type

/-- What becomes of a row of values that are put back into a world: a cell keeps what it holds or
gets back what it held before. -/
structure PutBack (schema : Schema) (world : World) (pending : List Put) (middle : World)
    (outcome : Except AccessError Unit) (after : World) : Prop where
  guards : after.guards = middle.guards
  has : ∀ ref, middle.Has ref → after.Has ref
  cell : ∀ ref field, world.Has ref → after.cell? ref field = middle.cell? ref field ∨
    after.cell? ref field = world.cell? ref field
  untouched : ∀ ref field, world.Has ref → (∀ put ∈ pending, ¬ Touches schema put ref field) →
    after.cell? ref field = middle.cell? ref field
  restored : outcome = .ok () → ∀ put ∈ pending, ∀ field, Touches schema put put.ref field →
    after.cell? put.ref field = world.cell? put.ref field
  refused : ∀ error, outcome = .error error →
    ∃ put ∈ pending, PutRefused put.walked put.ref.type put.info error

section

variable {accessor : Accessor} {schema : Schema} {world middle : World} {root : BeanRef}
  {before front : List Segment}

/-- A value that is put back is stored as what the cell held before. -/
theorem PutsBack.run (fits : schema.Fits world) {put : Put}
    (putsBack : accessor.PutsBack world root before front put) {field : String} {type : FieldType}
    (typed : schema.field? put.ref.type field = some type)
    (shows : put.info.ShowsField put.ref.type field type) (has : middle.Has put.ref) :
    (∃ old, world.cell? put.ref field = some old ∧
      (putBack put.walked put.ref put.info put.value).runOn middle =
        (.ok (), middle.store put.ref field old)) ∨
    ∃ error, PutRefused put.walked put.ref.type put.info error ∧
      (putBack put.walked put.ref put.info put.value).runOn middle = (.error error, middle) := by
  rcases runOn_putBack shows has put.walked put.value with ⟨content, took, -, stored⟩ | refused
  · obtain ⟨old, found, shown, -⟩ := fits.shown putsBack.has typed
    have value : put.value = type.toValue old := (putsBack.value field type shows).trans shown
    have within := putsBack.beans type ⟨old, value.symm⟩
    rw [value, FieldType.ofValue_toValue within] at took
    obtain rfl := Except.ok.inj took
    exact .inl ⟨_, found, stored⟩
  · exact .inr refused

/-- Values that are put back in a row. -/
theorem putAll_putsBack (plain : accessor.registry.Plain schema) (fits : schema.Fits world)
    (pending : List Put) :
    ∀ middle : World, (∀ put ∈ pending, accessor.PutsBack world root before front put) →
      (∀ ref, world.Has ref → middle.Has ref) →
      ∃ outcome after, (putAll pending).runOn middle = (outcome, after) ∧
        PutBack schema world pending middle outcome after := by
  induction pending with
  | nil =>
    intro middle _ _
    exact ⟨_, middle, rfl, ⟨rfl, fun _ has => has, fun _ _ _ => .inl rfl, fun _ _ _ _ => rfl,
      by simp, by simp⟩⟩
  | cons put pending ih =>
    intro middle putsBack has
    have head := putsBack put List.mem_cons_self
    have hasPut : middle.Has put.ref := has put.ref head.has
    obtain ⟨_, label, _, _, _, -, -, -, names⟩ := head.passes
    obtain ⟨field, type, typed, shows⟩ := shows_of_capability? plain names
    rcases head.run fits typed shows hasPut with ⟨old, found, stored⟩ | ⟨error, refused, failed⟩
    · have kept := World.EvolvesTo.of_store hasPut field old
      obtain ⟨outcome, after, run, rest⟩ := ih (middle.store put.ref field old)
        (fun other among => putsBack other (List.mem_cons_of_mem _ among))
        (fun ref hasRef => kept.has ref (has ref hasRef))
      refine ⟨outcome, after, (Access.runOn_bind_of_ok stored _).trans run, ?_⟩
      refine ⟨rest.guards, fun ref hasRef => rest.has ref (kept.has ref hasRef), ?_, ?_, ?_, ?_⟩
      · intro ref field' hasRef
        rcases rest.cell ref field' hasRef with same | same
        · rw [World.cell?_store hasPut (has ref hasRef)] at same
          split at same
          · next here => exact .inr (same.trans (by rw [here.1, here.2, found]))
          · exact .inl same
        · exact .inr same
      · intro ref field' hasRef untouched
        have other : ¬ (ref = put.ref ∧ field' = field) := by
          rintro ⟨rfl, rfl⟩
          exact untouched put List.mem_cons_self ⟨rfl, type, typed, shows⟩
        rw [rest.untouched ref field' hasRef fun put among =>
          untouched put (List.mem_cons_of_mem _ among)]
        rw [World.cell?_store hasPut (has ref hasRef), if_neg other]
      · intro done other among field' touches
        rcases List.mem_cons.1 among with rfl | among
        · obtain ⟨-, type', typed', shows'⟩ := touches
          rcases head.run fits typed' shows' hasPut with ⟨old', found', stored'⟩ | ⟨_, -, failed⟩
          · have same : middle.store other.ref field old = middle.store other.ref field' old' :=
              (Prod.mk.inj (stored.symm.trans stored')).2
            have here : (middle.store other.ref field old).cell? other.ref field' =
                world.cell? other.ref field' := by
              rw [same, World.cell?_store hasPut hasPut, if_pos ⟨rfl, rfl⟩, found']
            exact (rest.cell other.ref field' head.has).elim (fun kept => kept.trans here) id
          · simp [stored] at failed
        · exact rest.restored done other among field' touches
      · intro error failed
        obtain ⟨other, among, refused⟩ := rest.refused error failed
        exact ⟨other, List.mem_cons_of_mem _ among, refused⟩
    · refine ⟨_, middle, Access.runOn_bind_of_error failed _, ⟨rfl, fun _ has => has,
        fun _ _ _ => .inl rfl, fun _ _ _ _ => rfl, by simp, ?_⟩⟩
      rintro error' same
      exact ⟨put, List.mem_cons_self, Except.error.inj same ▸ refused⟩

/-! ## What is left behind -/

/-- A refusal to take a value back changes nothing. -/
theorem PutsBack.eq_of_error (plain : accessor.registry.Plain schema) {put : Put}
    (putsBack : accessor.PutsBack world root before front put) (has : middle.Has put.ref)
    {error : AccessError} {after : World}
    (failed : (putBack put.walked put.ref put.info put.value).runOn middle =
      (.error error, after)) :
    after = middle ∧ PutRefused put.walked put.ref.type put.info error := by
  obtain ⟨_, label, _, _, _, -, -, -, names⟩ := putsBack.passes
  obtain ⟨_, _, -, shows⟩ := shows_of_capability? plain names
  exact eq_of_putBack_refused shows has failed

variable {ref : BeanRef} {field : String}

/-- A value that is put back while only one cell has changed goes into that cell, which then holds
what it held, or it changes nothing. -/
theorem PutsBack.eq_or_eq (plain : accessor.registry.Plain schema) (fits : schema.Fits world)
    (evolves : world.EvolvesTo [] middle) (has : world.Has ref) (cell : Field) {put : Put}
    (putsBack : accessor.PutsBack world root before front put) {after : World}
    (done : (putBack put.walked put.ref put.info put.value).runOn (middle.store ref field cell) =
      (.ok (), after)) :
    (Touches schema put ref field ∧ after = middle) ∨
      ¬ Touches schema put ref field ∧ after = middle.store ref field cell := by
  have hasPut := evolves.has _ putsBack.has
  have hasStored : (middle.store ref field cell).Has put.ref :=
    (World.has_store_iff (evolves.has ref has) field cell put.ref).2 hasPut
  have stores : ∀ field' type', schema.field? put.ref.type field' = some type' →
      put.info.ShowsField put.ref.type field' type' → ∃ old,
        middle.cell? put.ref field' = some old ∧
          after = (middle.store ref field cell).store put.ref field' old := by
    intro field' type' typed shows
    rcases putsBack.run fits typed shows hasStored with ⟨old, found, stored⟩ | ⟨_, -, failed⟩
    · exact ⟨old, (evolves.cell? putsBack.has (by simp) field').trans found,
        (Prod.mk.inj (done.symm.trans stored)).2⟩
    · simp [failed] at done
  by_cases touches : Touches schema put ref field
  · obtain ⟨rfl, type', typed, shows⟩ := touches
    obtain ⟨old, found, rfl⟩ := stores field type' typed shows
    exact .inl ⟨⟨rfl, type', typed, shows⟩, World.store_store_eq_self hasPut cell found⟩
  · obtain ⟨_, label, _, _, _, -, -, -, names⟩ := putsBack.passes
    obtain ⟨field', type', typed, shows⟩ := shows_of_capability? plain names
    obtain ⟨old, found, rfl⟩ := stores field' type' typed shows
    have other : ¬ (put.ref = ref ∧ field' = field) := by
      rintro ⟨rfl, rfl⟩
      exact touches ⟨rfl, type', typed, shows⟩
    refine .inr ⟨touches, World.store_eq_self ?_⟩
    rw [World.cell?_store (evolves.has ref has) hasPut, if_neg other, found]

/-- Where nothing has changed, nothing changes. -/
theorem PutsBack.eq_of_unchanged (plain : accessor.registry.Plain schema)
    (fits : schema.Fits world) (evolves : world.EvolvesTo [] middle) {put : Put}
    (putsBack : accessor.PutsBack world root before front put) {after : World}
    (done : (putBack put.walked put.ref put.info put.value).runOn middle = (.ok (), after)) :
    after = middle := by
  obtain ⟨_, label, _, _, _, -, -, -, names⟩ := putsBack.passes
  obtain ⟨field, type, typed, shows⟩ := shows_of_capability? plain names
  rcases putsBack.run fits typed shows (evolves.has _ putsBack.has) with
    ⟨old, found, stored⟩ | ⟨_, -, failed⟩
  · obtain rfl := (Prod.mk.inj (done.symm.trans stored)).2
    exact World.store_eq_self ((evolves.cell? putsBack.has (by simp) field).trans found)
  · simp [failed] at done

/-- A row of values that are put back where nothing has changed. -/
theorem eq_of_putAll_unchanged (plain : accessor.registry.Plain schema) (fits : schema.Fits world)
    (evolves : world.EvolvesTo [] middle) {puts : List Put}
    (putsBack : ∀ put ∈ puts, accessor.PutsBack world root before front put) {after : World}
    (done : (putAll puts).runOn middle = (.ok (), after)) : after = middle := by
  induction puts with
  | nil => exact (Prod.mk.inj done).2.symm
  | cons put puts ih =>
    obtain ⟨_, next, first, rest⟩ := Access.runOn_bind_eq_ok_iff.1 done
    obtain rfl := (putsBack put List.mem_cons_self).eq_of_unchanged plain fits evolves first
    exact ih (fun other among => putsBack other (List.mem_cons_of_mem _ among)) rest

/-- After a row of values that are put back while only one cell has changed, the cell holds again
what it held, or none of them went into it and each of them changed nothing. -/
theorem eq_or_eq_of_putAll (plain : accessor.registry.Plain schema) (fits : schema.Fits world)
    (evolves : world.EvolvesTo [] middle) (has : world.Has ref) (cell : Field) {puts : List Put}
    (putsBack : ∀ put ∈ puts, accessor.PutsBack world root before front put) {after : World}
    (done : (putAll puts).runOn (middle.store ref field cell) = (.ok (), after)) :
    after = middle ∨ after = middle.store ref field cell ∧ ∀ put ∈ puts,
      ¬ Touches schema put ref field ∧
        (putBack put.walked put.ref put.info put.value).runOn (middle.store ref field cell) =
          (.ok (), middle.store ref field cell) := by
  induction puts with
  | nil => exact .inr ⟨(Prod.mk.inj done).2.symm, by simp⟩
  | cons put puts ih =>
    have behind : ∀ other ∈ puts, accessor.PutsBack world root before front other :=
      fun other among => putsBack other (List.mem_cons_of_mem _ among)
    obtain ⟨_, next, first, rest⟩ := Access.runOn_bind_eq_ok_iff.1 done
    rcases (putsBack put List.mem_cons_self).eq_or_eq plain fits evolves has cell first with
      ⟨-, rfl⟩ | ⟨apart, rfl⟩
    · exact .inl (eq_of_putAll_unchanged plain fits evolves behind rest)
    · refine (ih behind rest).imp_right fun ⟨same, each⟩ => ⟨same, fun other among => ?_⟩
      rcases List.mem_cons.1 among with rfl | among
      · exact ⟨apart, first⟩
      · exact each other among

/-- Values that are put back while only one cell has changed change nothing if they are taken and
none of them goes into that cell. -/
theorem putAll_stays (plain : accessor.registry.Plain schema) (fits : schema.Fits world)
    (evolves : world.EvolvesTo [] middle) (has : world.Has ref) (cell : Field) {puts : List Put}
    (putsBack : ∀ put ∈ puts, accessor.PutsBack world root before front put)
    (taken : ∀ put ∈ puts, ¬ Touches schema put ref field ∧ ∃ after,
      (putBack put.walked put.ref put.info put.value).runOn (middle.store ref field cell) =
        (.ok (), after)) :
    (putAll puts).runOn (middle.store ref field cell) = (.ok (), middle.store ref field cell) := by
  induction puts with
  | nil => rfl
  | cons put puts ih =>
    obtain ⟨apart, after, first⟩ := taken put List.mem_cons_self
    rcases (putsBack put List.mem_cons_self).eq_or_eq plain fits evolves has cell first with
      ⟨touches, -⟩ | ⟨-, rfl⟩
    · exact absurd touches apart
    · exact (Access.runOn_bind_of_ok first _).trans
        (ih (fun other among => putsBack other (List.mem_cons_of_mem _ among))
          fun other among => taken other (List.mem_cons_of_mem _ among))

end

end PropertyGraph.Accessor
