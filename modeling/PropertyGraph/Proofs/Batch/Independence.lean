import PropertyGraph.Proofs.Batch.Fold
import PropertyGraph.Proofs.Write.Locality

/-!
# Independent values of a batch

Two values of a batch are independent if what the one is written to is neither read nor written when
the other one is set, each on the world that the batch starts with. Then no order of the batch
matters. Wherever a batch has got to, a cell that a value writes holds what it holds after that
value alone, and every other cell holds what it held; for what is put back on the way was read of a
cell that nothing has written. So each value is set as if it were the only one.
-/
namespace PropertyGraph

/-- Both worlds have the guards of each other and the beans of the world, which are the same in
both. Other beans may have come into them. -/
structure World.SameBeans (world left right : World) : Prop where
  guards : left.guards = right.guards
  has : ∀ ref, world.Has ref → left.Has ref ∧ right.Has ref
  cell : ∀ ref field, world.Has ref → left.cell? ref field = right.cell? ref field

namespace Accessor

/-- Setting the value reads the cell. -/
def SetReads (accessor : Accessor) (schema : Schema) (world : World) (root : BeanRef)
    (entry : PropertyValue) (ref : BeanRef) (field : String) : Prop :=
  ∃ path, PropertyPath.parse entry.name = .ok path ∧
    accessor.ReadsCell schema world root path ref field

/-- Setting the value writes the cell. -/
def SetWrites (accessor : Accessor) (schema : Schema) (world : World) (root : BeanRef)
    (entry : PropertyValue) (ref : BeanRef) (field : String) : Prop :=
  ∃ path, PropertyPath.parse entry.name = .ok path ∧
    accessor.WritesCell schema world root accessor.options path entry.value ref field

/-- What the first value is written to is neither read nor written when the other one is set. -/
def Spares (accessor : Accessor) (schema : Schema) (world : World) (root : BeanRef)
    (entry other : PropertyValue) : Prop :=
  ∀ ref field, accessor.SetWrites schema world root entry ref field →
    ¬ accessor.SetReads schema world root other ref field ∧
      ¬ accessor.SetWrites schema world root other ref field

/-- Each value spares every other one. -/
def Independent (accessor : Accessor) (schema : Schema) (world : World) (root : BeanRef)
    (entries : List PropertyValue) : Prop :=
  entries.Pairwise fun entry other =>
    accessor.Spares schema world root entry other ∧ accessor.Spares schema world root other entry

/-- The later world is what becomes of the world when the values of a row are set, so far as the
beans of the world go: a cell that one of them writes holds what it holds after that value alone,
and every other cell holds what it held. -/
structure Merges (accessor : Accessor) (schema : Schema) (world : World) (root : BeanRef)
    (done : List PropertyValue) (later : World) : Prop where
  guards : later.guards = world.guards
  has : ∀ ref, world.Has ref → later.Has ref
  written : ∀ entry ∈ done, ∀ ref field, world.Has ref →
    accessor.SetWrites schema world root entry ref field →
    later.cell? ref field =
      ((accessor.setText root entry.name entry.value).runOn world).2.cell? ref field
  kept : ∀ ref field, world.Has ref →
    (∀ entry ∈ done, ¬ accessor.SetWrites schema world root entry ref field) →
    later.cell? ref field = world.cell? ref field

section

variable {accessor : Accessor} {schema : Schema} {world later other : World} {root : BeanRef}
  {done rest : List PropertyValue} {entry : PropertyValue}

/-- Setting a value is local to the cells that it reads and writes. -/
theorem setText_local (derived : accessor.registry.Derived schema) (fits : schema.Fits world)
    (guarded : world.Guarded) (has : world.Has root) (off : accessor.options.growNested = false)
    (entry : PropertyValue) :
    (accessor.setText root entry.name entry.value).LocalOn world
      (accessor.SetReads schema world root entry) (accessor.SetWrites schema world root entry) := by
  cases parsed : PropertyPath.parse entry.name with
  | error cause =>
    rw [setText, parsePath, parsed]
    exact ⟨.error (.malformedPath cause), .empty, .empty, .bind_error (.mk_pure _ _ _) _⟩
  | ok path =>
    have reads : accessor.SetReads schema world root entry =
        accessor.ReadsCell schema world root path := by
      simp [funext_iff, SetReads, parsed]
    have writes : accessor.SetWrites schema world root entry =
        accessor.WritesCell schema world root accessor.options path entry.value := by
      simp [funext_iff, SetWrites, parsed]
    rw [setText, parsePath_of_parse parsed, pure_bind, reads, writes]
    exact setWith_local derived fits guarded has off path entry.value

namespace Merges

/-- The world itself merges no values. -/
theorem refl (world : World) : accessor.Merges schema world root [] world :=
  ⟨rfl, fun _ has => has, by simp, fun _ _ _ _ => rfl⟩

/-- What merges values goes on to do so while its beans stay as they are. -/
theorem evolves (merges : accessor.Merges schema world root done later)
    (evolves : later.EvolvesTo [] other) : accessor.Merges schema world root done other where
  guards := evolves.guards.trans merges.guards
  has ref has := evolves.has ref (merges.has ref has)
  written entry among ref field has writes :=
    (evolves.cell? (merges.has ref has) (by simp) field).trans
      (merges.written entry among ref field has writes)
  kept ref field has untouched :=
    (evolves.cell? (merges.has ref has) (by simp) field).trans (merges.kept ref field has untouched)

/-- What has been set in whatever order leaves the same. -/
theorem cell?_eq (merges : accessor.Merges schema world root done later)
    (merges' : accessor.Merges schema world root rest other)
    (same : ∀ entry, entry ∈ done ↔ entry ∈ rest) {ref : BeanRef} (has : world.Has ref)
    (field : String) : later.cell? ref field = other.cell? ref field := by
  by_cases isWritten : ∃ entry ∈ done, accessor.SetWrites schema world root entry ref field
  · obtain ⟨entry, among, writes⟩ := isWritten
    rw [merges.written entry among ref field has writes,
      merges'.written entry ((same entry).1 among) ref field has writes]
  · have untouched : ∀ entry ∈ done, ¬ accessor.SetWrites schema world root entry ref field :=
      fun entry among writes => isWritten ⟨entry, among, writes⟩
    rw [merges.kept ref field has untouched, merges'.kept ref field has fun entry among =>
      untouched entry ((same entry).2 among)]

/-- A further value that is independent of those before it is set as if it were the only one. -/
theorem step (derived : accessor.registry.Derived schema) (fits : schema.Fits world)
    (guarded : world.Guarded) (has : world.Has root) (off : accessor.options.growNested = false)
    (merges : accessor.Merges schema world root done later)
    (apart : ∀ earlier ∈ done, accessor.Spares schema world root earlier entry ∧
      accessor.Spares schema world root entry earlier) :
    ((accessor.setText root entry.name entry.value).runOn later).1 =
        ((accessor.setText root entry.name entry.value).runOn world).1 ∧
      accessor.Merges schema world root (done ++ [entry])
        ((accessor.setText root entry.name entry.value).runOn later).2 := by
  obtain ⟨outcome, patch, within, runs⟩ := setText_local derived fits guarded has off entry
  -- The cells that the value reads or writes have not been written yet.
  have agrees : world.MatchesOn (fun ref field =>
      accessor.SetReads schema world root entry ref field ∨
        accessor.SetWrites schema world root entry ref field) later := by
    refine ⟨merges.guards, merges.has, fun ref field hasRef among => ?_⟩
    refine merges.kept ref field hasRef fun earlier isDone writes => ?_
    obtain ⟨noRead, noWrite⟩ := (apart earlier isDone).1 ref field writes
    exact among.elim noRead noWrite
  obtain ⟨alone, runAlone, patchedAlone⟩ := runs world (.refl _ _)
  obtain ⟨after, run, patched⟩ := runs later agrees
  rw [run, runAlone]
  refine ⟨rfl, patched.guards.trans merges.guards,
    fun ref hasRef => patched.has ref (merges.has ref hasRef), ?_, ?_⟩
  · intro earlier among ref field hasRef writes
    rcases List.mem_append.1 among with isDone | isEntry
    · obtain ⟨noRead, noWrite⟩ := (apart earlier isDone).1 ref field writes
      have untold : patch ref field = none := by
        refine Option.eq_none_iff_forall_ne_some.2 fun content told => ?_
        exact (within ref field content told).elim noWrite fun reads => noRead reads.1
      rw [patched.cell ref field (merges.has ref hasRef), untold, Option.none_or]
      exact merges.written earlier isDone ref field hasRef writes
    · obtain rfl := List.mem_singleton.1 isEntry
      rw [patched.cell ref field (merges.has ref hasRef), runAlone,
        patchedAlone.cell ref field hasRef, agrees.cell ref field hasRef (.inr writes)]
  · intro ref field hasRef untouched
    have before : later.cell? ref field = world.cell? ref field :=
      merges.kept ref field hasRef fun earlier isDone =>
        untouched earlier (List.mem_append_left _ isDone)
    rw [patched.cell ref field (merges.has ref hasRef), before]
    cases told : patch ref field with
    | none => exact Option.none_or
    | some content =>
      rcases within ref field content told with writes | ⟨-, held⟩
      · exact absurd writes (untouched entry (by simp))
      · rw [held, Option.some_or]

end Merges

variable (accessor world root) in
/-- The entry that a value leaves in the outcome of a batch if it is the only one. -/
def keptAlone? (options : BatchOptions) (entry : PropertyValue) : Option BatchEntry :=
  kept? options entry ((accessor.setText root entry.name entry.value).runOn world).1

/-- Independent values leave the entries that each of them leaves alone. By induction on the values
that are still to be set; those before them have been merged. -/
theorem run_applyEach_merges (derived : accessor.registry.Derived schema)
    (fits : schema.Fits world) (guarded : world.Guarded) (has : world.Has root)
    (off : accessor.options.growNested = false) (options : BatchOptions)
    (rest : List PropertyValue) (merges : accessor.Merges schema world root done later)
    (independent : accessor.Independent schema world root (done ++ rest)) :
    let tried := (accessor.applyEach options root rest).run later
    tried.1 = rest.filterMap (accessor.keptAlone? world root options) ∧
      accessor.Merges schema world root (done ++ rest) tried.2 := by
  induction rest generalizing done later with
  | nil =>
    rw [List.append_nil]
    exact ⟨rfl, merges⟩
  | cons entry rest ih =>
    obtain ⟨-, -, apart⟩ := List.pairwise_append.1 independent
    obtain ⟨same, merged⟩ := merges.step derived fits guarded has off
      fun earlier isDone => apart earlier isDone entry List.mem_cons_self
    obtain ⟨kept, recorded⟩ := accessor.run_applyOne options root entry later
    have onward : accessor.Independent schema world root (done ++ [entry] ++ rest) := by
      simpa using independent
    obtain ⟨keptRest, mergedRest⟩ := ih (merged.evolves recorded.evolves) onward
    rw [applyEach, run_bind, run_bind, kept, same]
    rw [List.append_cons]
    refine ⟨?_, mergedRest⟩
    rw [List.filterMap_cons, keptAlone?]
    cases kept? options entry ((accessor.setText root entry.name entry.value).runOn world).1 with
    | none => exact keptRest
    | some first => exact congrArg (first :: ·) keptRest

/-- The entries of an outcome are named after values of the batch, in order. -/
theorem names_filterMap_keptAlone (options : BatchOptions) (entries : List PropertyValue) :
    ((entries.filterMap (accessor.keptAlone? world root options)).map (·.property)).Sublist
      (entries.map (·.name)) := by
  induction entries with
  | nil => exact .slnil
  | cons entry entries ih =>
    rw [List.filterMap_cons, List.map_cons]
    cases left : accessor.keptAlone? world root options entry with
    | none => exact ih.cons _
    | some kept =>
      obtain ⟨-, same⟩ := Option.ite_none_left_eq_some.1 left
      obtain rfl := Option.some.inj same
      exact ih.cons_cons _

/-- Independent values of a batch commute. In whatever order they are set, and whatever the batch
leaves out, the beans end up the same, and each value leaves the same entry in the outcome or none.
What was read of the beans on the way, and is put back into them, disturbs no other value. -/
theorem applyBatch_perm (derived : accessor.registry.Derived schema) (fits : schema.Fits world)
    (guarded : world.Guarded) (has : world.Has root) (off : accessor.options.growNested = false)
    {values permuted : PropertyValues} (permutes : permuted.entries.Perm values.entries)
    (independent : accessor.Independent schema world root values.entries)
    (options : BatchOptions) :
    let inOrder := (accessor.applyBatch options root values).run world
    let reordered := (accessor.applyBatch options root permuted).run world
    world.SameBeans inOrder.2 reordered.2 ∧
      inOrder.1.entries.Perm reordered.1.entries ∧
      (values.names.Nodup → ∀ name, inOrder.1.entries.find? (·.property == name) =
        reordered.1.entries.find? (·.property == name)) := by
  intro inOrder reordered
  have onward : accessor.Independent schema world root permuted.entries :=
    (permutes.pairwise_iff fun both => ⟨both.2, both.1⟩).2 independent
  obtain ⟨kept, merges⟩ := run_applyEach_merges derived fits guarded has off options values.entries
    (.refl world) independent
  obtain ⟨kept', merges'⟩ := run_applyEach_merges derived fits guarded has off options
    permuted.entries (.refl world) onward
  have entries : inOrder.1.entries =
      values.entries.filterMap (accessor.keptAlone? world root options) := kept
  have entries' : reordered.1.entries =
      permuted.entries.filterMap (accessor.keptAlone? world root options) := kept'
  have perm : inOrder.1.entries.Perm reordered.1.entries := by
    rw [entries, entries']
    exact (permutes.filterMap _).symm
  refine ⟨⟨merges.guards.trans merges'.guards.symm,
    fun ref hasRef => ⟨merges.has ref hasRef, merges'.has ref hasRef⟩, fun ref field hasRef => ?_⟩,
    perm, fun distinct name => Option.ext fun entry => ?_⟩
  · exact merges.cell?_eq merges' (fun entry => permutes.symm.mem_iff) hasRef field
  · have named : (inOrder.1.entries.map (·.property)).Nodup := by
      rw [entries]
      exact distinct.sublist (names_filterMap_keptAlone options values.entries)
    have named' : (reordered.1.entries.map (·.property)).Nodup :=
      (perm.map _).nodup_iff.1 named
    rw [find?_eq_some_iff_of_nodup named, find?_eq_some_iff_of_nodup named', perm.mem_iff]

end

end Accessor

namespace Household

variable {front : List Segment} {label field : String} {ref other : BeanRef}

/-- On a bean of the household a name shows the field of that name. -/
theorem field_eq_of_shows (isPlain : ref.type ≠ TypeHandle.type) {info : PropertyInfo}
    (names : accessor.capability? ref.type label = some (.property info)) {type : FieldType}
    (shows : info.ShowsField ref.type field type) : field = label :=
  layout.field_eq_of_shows isPlain (Accessor.describe?_of_capability? names) shows

/-- A path that ends in a name is written there. -/
theorem eq_of_setWrites {entry : PropertyValue} {path : PropertyPath}
    (parsed : PropertyPath.parse entry.name = .ok path)
    (segments : path.segments = front ++ [.name label])
    (leads : accessor.Leads (world []) eve front ref) (isPlain : ref.type ≠ TypeHandle.type)
    (writes : accessor.SetWrites layout.schema (world []) eve entry other field) :
    other = ref ∧ field = label := by
  obtain ⟨path', parsed', target, rfl, rfl, -⟩ := writes
  obtain rfl : path = path' := by simpa [parsed] using parsed'
  obtain ⟨sameFront, sameLabel⟩ :=
    Accessor.last_name_unique target.isKey (target.segments.symm.trans segments)
  have sameRef : target.ref = ref := (sameFront ▸ target.leads).unique leads
  refine ⟨sameRef, ?_⟩
  rw [← sameLabel]
  exact field_eq_of_shows (sameRef ▸ isPlain) target.names target.shows

/-- Eve is renamed, and so is her friend; the list of her friends is read for it and put back. -/
theorem applyBatch_eve_and_friend :
    let values := PropertyValues.ofPairs [("name", .text "Eva"), ("friends[0].name", .text "Anna")]
    let permuted :=
      PropertyValues.ofPairs [("friends[0].name", .text "Anna"), ("name", .text "Eva")]
    let inOrder := (accessor.applyBatch {} eve values).run (world [])
    let reordered := (accessor.applyBatch {} eve permuted).run (world [])
    accessor.Independent layout.schema (world []) eve values.entries ∧
      (world []).SameBeans inOrder.2 reordered.2 ∧
      (inOrder.2.shown eve "name").text? = some "Eva" ∧
      (inOrder.2.shown ann "name").text? = some "Anna" ∧
      inOrder.1.entries.find? (·.property == "name") =
        reordered.1.entries.find? (·.property == "name") := by
  intro values permuted inOrder reordered
  let renamesEve : PropertyValue := ⟨"name", .text "Eva"⟩
  let renamesAnn : PropertyValue := ⟨"friends[0].name", .text "Anna"⟩
  have parsedEve : PropertyPath.parse renamesEve.name = .ok ⟨.name "name", []⟩ := by
    decide +kernel
  have parsedAnn : PropertyPath.parse renamesAnn.name =
      .ok ⟨.name "friends", [.key "0" false, .name "name"]⟩ := by
    decide +kernel
  have leadsEve : accessor.Leads (world []) eve [] eve := rfl
  have leadsAnn : accessor.Leads (world []) eve [.name "friends", .key "0" false] ann := rfl
  have writesEve {other : BeanRef} {field : String}
      (writes : accessor.SetWrites layout.schema (world []) eve renamesEve other field) :
      other = eve ∧ field = "name" :=
    eq_of_setWrites parsedEve rfl leadsEve person_ne_handle writes
  have writesAnn {other : BeanRef} {field : String}
      (writes : accessor.SetWrites layout.schema (world []) eve renamesAnn other field) :
      other = ann ∧ field = "name" :=
    eq_of_setWrites parsedAnn rfl leadsAnn person_ne_handle writes
  have readsEve {other : BeanRef} {field : String} :
      ¬ accessor.SetReads layout.schema (world []) eve renamesEve other field := by
    rintro ⟨path, parsed, front, label, next, later, split, -⟩
    obtain rfl := Except.ok.inj (parsedEve.symm.trans parsed)
    have length := congrArg List.length split
    simp only [PropertyPath.segments, List.length_cons, List.length_append, List.length_nil]
      at length
    omega
  have readsAnn {other : BeanRef} {field : String}
      (reads : accessor.SetReads layout.schema (world []) eve renamesAnn other field) :
      other = eve ∧ field = "friends" := by
    obtain ⟨path, parsed, front, label, next, later, split, leads, info, type, names, -, -,
      shows⟩ := reads
    obtain rfl := Except.ok.inj (parsedAnn.symm.trans parsed)
    obtain ⟨rfl, rfl⟩ : front = [] ∧ label = "friends" := by
      rcases front with _ | ⟨_, _ | ⟨_, _ | ⟨_, _⟩⟩⟩ <;> simp_all [PropertyPath.segments]
    obtain rfl : other = eve := leads
    exact ⟨rfl, field_eq_of_shows person_ne_handle names shows⟩
  have independent : accessor.Independent layout.schema (world []) eve values.entries := by
    refine List.pairwise_pair.2 ⟨fun other field writes => ⟨fun reads => ?_, fun writes' => ?_⟩,
      fun other field writes => ⟨readsEve, fun writes' => ?_⟩⟩
    · exact absurd ((writesEve writes).2.symm.trans (readsAnn reads).2) (by decide)
    · exact absurd ((writesEve writes).1.symm.trans (writesAnn writes').1) (by decide)
    · exact absurd ((writesAnn writes).1.symm.trans (writesEve writes').1) (by decide)
  obtain ⟨same, -, entries⟩ := Accessor.applyBatch_perm layout.registry_derived (fits_world [])
    (by simp [World.Guarded, world]) (has_eve []) rfl (.swap _ _ _) independent {}
  exact ⟨independent, same, by decide +kernel, by decide +kernel, entries (by decide) "name"⟩

end Household

end PropertyGraph
