import PropertyGraph.Batch.PropertyValues
import PropertyGraph.Proofs.Name.Table

/-!
# Named values keep the order of their addition

Of a row of additions, removals and new beginnings only the additions count that no later change
takes back. The names of what such a row leaves are distinct and come in the order in which each of
them was first added, counting those additions only, and each has the value that was added last. To
replace a value moves nothing, and to remove one leaves the others as they are.
-/
namespace PropertyGraph.PropertyValues

/-- What can be done to named values. -/
inductive Change where
  /-- Adds a value, or replaces that of the same name. -/
  | add (name : String) (value : Value)
  /-- Removes the value of a name. -/
  | remove (name : String)
  /-- Begins anew with the values of pairs. -/
  | collect (pairs : List (String × Value))

namespace Change

/-- The values that a change adds, with their names. -/
def additions : Change → NameTable Value
  | add name value => [(name, value)]
  | remove _ => []
  | collect pairs => pairs

/-- The change takes back what was added under the name before. -/
def drops (name : String) : Change → Bool
  | add _ _ => false
  | remove other => name == other
  | collect _ => true

end Change

/-- The values after a change. -/
def perform (values : PropertyValues) : Change → PropertyValues
  | .add name value => values.add name value
  | .remove name => (values.remove name).2
  | .collect pairs => ofPairs pairs

/-- The values that a row of changes leaves. -/
def afterwards (changes : List Change) : PropertyValues :=
  changes.foldl perform empty

/-- The additions of a row of changes that none of the later ones takes back. -/
def standing : List Change → NameTable Value
  | [] => []
  | change :: later =>
    change.additions.filter (fun added => !later.any (·.drops added.1)) ++ standing later

/-- The values as a table. -/
def table (values : PropertyValues) : NameTable Value :=
  values.entries.map fun entry => (entry.name, entry.value)

/-- The names are those of the table. -/
theorem names_eq (values : PropertyValues) : values.names = values.table.map (·.1) := by
  rw [names, table, List.map_map]
  rfl

/-- Looking up a value is looking it up in the table. -/
theorem get?_eq (values : PropertyValues) (name : String) :
    values.get? name = values.table.lookup name := by
  rw [get?, table]
  induction values.entries with
  | nil => rfl
  | cons entry rest ih =>
    by_cases same : entry.name = name
    · simp [same]
    · simpa [same, List.lookup_cons, beq_false_of_ne (Ne.symm same)] using ih

/-- A table that is filled from the start has distinct names. -/
theorem nodup_names_of_filled {values : PropertyValues} {entries : NameTable Value}
    (filled : values.table = .filled entries) : values.names.Nodup := by
  rw [names_eq, filled]
  exact NameTable.nodup_names_filled entries

/-! ## Additions -/

/-- An addition is a put into the table. -/
theorem table_add (values : PropertyValues) (name : String) (value : Value) :
    (values.add name value).table = values.table.put name value := by
  rw [add, table, table]
  induction values.entries with
  | nil => rfl
  | cons entry rest ih =>
    by_cases same : entry.name = name
    · simp [put, NameTable.put, same]
    · simpa [put, NameTable.put, same] using ih

/-- Additions in a row are puts in a row. -/
theorem table_addAll (values : PropertyValues) (pairs : List (String × Value)) :
    (values.addAll pairs).table =
      pairs.foldl (fun table pair => table.put pair.1 pair.2) values.table := by
  induction pairs generalizing values with
  | nil => rfl
  | cons pair rest ih => exact (ih _).trans (by rw [table_add]; rfl)

/-- Pairs fill the table one after the other. -/
theorem table_ofPairs (pairs : List (String × Value)) : (ofPairs pairs).table = .filled pairs :=
  table_addAll empty pairs

/-- A value that is replaced stays in its place, and so do the others. -/
theorem put_of_mem {entries : List PropertyValue} (distinct : (entries.map (·.name)).Nodup)
    {entry : PropertyValue} (among : entry.name ∈ entries.map (·.name)) :
    put entry entries =
      entries.map fun other => if other.name = entry.name then entry else other := by
  induction entries with
  | nil => cases among
  | cons other rest ih =>
    rw [List.map_cons, List.nodup_cons] at distinct
    rw [put, List.map_cons]
    by_cases same : other.name = entry.name
    · rw [if_pos same, if_pos same]
      congr 1
      -- The names behind are other ones, so nothing else is replaced.
      refine ((List.map_congr_left fun later behind => if_neg ?_).trans (List.map_id _)).symm
      exact fun again => distinct.1 (same.trans again.symm ▸ List.mem_map_of_mem behind)
    · rw [if_neg same, if_neg same]
      exact congrArg (other :: ·)
        (ih distinct.2 ((List.mem_cons.1 among).resolve_left (Ne.symm same)))

/-! ## Removals -/

/-- Removing tells what was found under the name, and takes the first entry of the name away. -/
theorem remove_eq (values : PropertyValues) (name : String) :
    values.remove name = (values.get? name, ⟨values.entries.eraseP (·.name == name)⟩) := by
  rw [remove, get?, List.eraseP_eq_eraseIdx, List.find?_eq_bind_findIdx?_getElem?]
  cases values.entries.findIdx? (·.name == name) <;> rfl

/-- Where the names are distinct, the first entry of a name is the only one. -/
theorem eraseP_eq_filter {entries : List PropertyValue} (distinct : (entries.map (·.name)).Nodup)
    (name : String) :
    entries.eraseP (·.name == name) = entries.filter (·.name != name) := by
  induction entries with
  | nil => rfl
  | cons entry rest ih =>
    rw [List.map_cons, List.nodup_cons] at distinct
    by_cases same : entry.name = name
    · have others : ∀ later ∈ rest, later.name ≠ name := fun later behind again =>
        distinct.1 (same.trans again.symm ▸ List.mem_map_of_mem behind)
      simpa [same] using (List.filter_eq_self.2 fun later behind =>
        bne_iff_ne.2 (others later behind)).symm
    · simpa [same] using ih distinct.2

/-- What is left are the entries of all other names. -/
theorem entries_remove {values : PropertyValues} (distinct : values.names.Nodup) (name : String) :
    (values.remove name).2.entries = values.entries.filter (·.name != name) := by
  rw [remove_eq]
  exact eraseP_eq_filter distinct name

/-- A removal takes the name out of the table. -/
theorem table_remove {values : PropertyValues} (distinct : values.names.Nodup) (name : String) :
    (values.remove name).2.table = values.table.filter (·.1 != name) := by
  rw [table, entries_remove distinct, table, List.filter_map]
  rfl

/-! ## Rows of changes -/

/-- The last of a row of changes is made to what the others leave. -/
theorem afterwards_concat (changes : List Change) (change : Change) :
    afterwards (changes ++ [change]) = (afterwards changes).perform change := by
  rw [afterwards, List.foldl_append, List.foldl_cons, List.foldl_nil, afterwards]

/-- A further change takes back what it drops, and what it adds comes behind. -/
theorem standing_concat (changes : List Change) (change : Change) :
    standing (changes ++ [change]) =
      (standing changes).filter (fun added => !change.drops added.1) ++ change.additions := by
  induction changes with
  | nil => simp [standing]
  | cons first later ih =>
    rw [List.cons_append, standing, ih, standing, List.filter_append, List.filter_filter,
      List.append_assoc]
    congr 2
    funext added
    simp [Bool.and_comm]

/-- A row of changes leaves what the additions fill that none of the later changes takes back. -/
theorem table_afterwards (changes : List Change) :
    (afterwards changes).table = .filled (standing changes) := by
  induction changes using List.reverseRecOn with
  | nil => rfl
  | append_singleton changes change ih =>
    have distinct := nodup_names_of_filled ih
    rw [afterwards_concat, standing_concat]
    cases change with
    | add name value =>
      rw [perform, table_add, ih]
      simp [Change.drops, Change.additions, NameTable.filled_concat]
    | remove name =>
      rw [perform, table_remove distinct, ih, ← NameTable.filled_filter]
      simp [Change.drops, Change.additions, bne]
    | collect pairs =>
      rw [perform, table_ofPairs]
      simp [Change.drops, Change.additions]

/-- After any row of changes the names are distinct and come in the order in which each of them was
first added since it was last removed; each is found with the value that was added last since then,
and no other name is found. A value that replaces another one takes its place and moves nothing. A
removal tells what was found under the name, and leaves all other entries as they are. -/
theorem afterwards_keeps_order (changes : List Change) :
    let values := afterwards changes
    values.names.Nodup ∧
    values.names = ((standing changes).map (·.1)).eraseDups ∧
    (∀ name, values.get? name = NameTable.last? (standing changes) name) ∧
    (∀ name, values.contains name = (values.get? name).isSome) ∧
    (∀ entry ∈ values.entries, values.get? entry.name = some entry.value) ∧
    (∀ name ∈ values.names, ∀ value, (values.add name value).entries =
      values.entries.map fun entry => if entry.name = name then ⟨name, value⟩ else entry) ∧
    ∀ name, (values.remove name).1 = values.get? name ∧
      (values.remove name).2.entries = values.entries.filter (·.name != name) := by
  intro values
  have filled := table_afterwards changes
  have distinct := nodup_names_of_filled filled
  refine ⟨distinct, ?_, fun name => ?_, fun name => ?_, fun entry among => ?_,
    fun name among value => put_of_mem distinct among, fun name => ?_⟩
  · rw [names_eq, filled, NameTable.names_filled]
  · rw [get?_eq, filled, NameTable.lookup_filled]
  · rw [get?, Option.isSome_map, contains, Bool.eq_iff_iff, List.find?_isSome, List.any_eq_true]
  · rw [get?_eq]
    exact NameTable.lookup_of_mem (names_eq values ▸ distinct) (List.mem_map_of_mem among)
  · exact ⟨by rw [remove_eq], entries_remove distinct name⟩

/-- A name that was removed and comes back stands at the end, and one that is added again keeps its
place. -/
theorem afterwards_keeps_order_of_zip :
    let changes : List Change := [.add "ghost" .null,
      .collect [("name", .text "tom"), ("age", .text "42"), ("name", .text "ann")],
      .remove "name", .add "zip" (.text "10"), .add "name" (.text "eve")]
    let values := afterwards changes
    values.names = ["age", "zip", "name"] ∧ values.get? "name" = some (.text "eve") ∧
      "zip" ∈ values.names ∧ (values.add "zip" (.text "11")).entries =
        [⟨"age", .text "42"⟩, ⟨"zip", .text "11"⟩, ⟨"name", .text "eve"⟩] ∧
      (values.remove "zip").1 = some (.text "10") := by
  intro changes values
  obtain ⟨-, listed, found, -, -, replaces, removes⟩ := afterwards_keeps_order changes
  have among : "zip" ∈ values.names := by decide
  exact ⟨listed.trans (by decide), (found "name").trans rfl, among,
    (replaces "zip" among _).trans rfl, (removes "zip").1.trans ((found "zip").trans rfl)⟩

end PropertyGraph.PropertyValues
