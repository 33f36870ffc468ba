import PropertyGraph.Proofs.Name.Table
import PropertyGraph.Registry.TypeMeta

/-!
# What insertions leave in a property table

A property table that properties and aliases are inserted into, in any order and with any names,
lists each name of a property once, in the order of the first insertion, and has under it the
property that was inserted last. An alias counts only for a name that no property has, and leads to
the property that was inserted last under its target. So it does not matter whether an alias is
inserted before or behind the properties.

A table may also keep its properties in a row of their own, with an index from names to places. The
index never leads out of the row, and the same properties are found by it.
-/
namespace PropertyGraph

namespace TypeMeta

/-- What can be put into a property table. -/
inductive Insertion where
  /-- A property, under its own name. -/
  | property (info : PropertyInfo)
  /-- A further name for the property of a name. -/
  | aliasFor (name target : String)

namespace Insertion

/-- The property that is inserted, with its name. -/
def slot? : Insertion → Option (String × PropertyInfo)
  | property info => some (info.name, info)
  | aliasFor _ _ => none

/-- The alias that is inserted, with its target. -/
def alias? : Insertion → Option (String × String)
  | property _ => none
  | aliasFor name target => some (name, target)

end Insertion

/-- Inserts a property or an alias. -/
def insert (table : TypeMeta) : Insertion → TypeMeta
  | .property info => table.insertProperty info
  | .aliasFor name target => table.insertAlias name target

/-- The table of a type after a row of insertions. -/
def afterwards (type : TypeRef) (make : Option Constructor) (insertions : List Insertion) :
    TypeMeta :=
  insertions.foldl insert { type := type, constructor? := make }

/-- The properties of a row of insertions, each with its name. -/
def inserted (insertions : List Insertion) : NameTable PropertyInfo :=
  insertions.filterMap (·.slot?)

/-- The aliases of a row of insertions, each with its target. -/
def aliased (insertions : List Insertion) : NameTable String :=
  insertions.filterMap (·.alias?)

section

variable (type : TypeRef) (make : Option Constructor) (insertions : List Insertion)

/-- The last insertion is made into what the others leave. -/
theorem afterwards_concat (insertion : Insertion) :
    afterwards type make (insertions ++ [insertion]) =
      (afterwards type make insertions).insert insertion := by
  rw [afterwards, List.foldl_append, List.foldl_cons, List.foldl_nil, afterwards]

/-- Properties and aliases fill tables of their own. -/
theorem afterwards_eq :
    afterwards type make insertions =
      { type := type
        slots := .filled (inserted insertions)
        aliases := .filled (aliased insertions)
        constructor? := make } := by
  induction insertions using List.reverseRecOn with
  | nil => rfl
  | append_singleton insertions insertion ih =>
    rw [afterwards_concat, ih]
    cases insertion with
    | property info =>
      simp [insert, insertProperty, inserted, aliased, Insertion.slot?, Insertion.alias?,
        NameTable.filled_concat]
    | aliasFor name target =>
      simp [insert, insertAlias, inserted, aliased, Insertion.slot?, Insertion.alias?,
        NameTable.filled_concat]

/-- A property is the last that was inserted under its name. -/
theorem property?_afterwards (name : String) :
    (afterwards type make insertions).property? name =
      NameTable.last? (inserted insertions) name := by
  rw [afterwards_eq, property?, NameTable.lookup_filled]

/-- An alias leads where the last alias of that name does. -/
theorem target_afterwards (name : String) :
    (afterwards type make insertions).aliases.lookup name =
      NameTable.last? (aliased insertions) name := by
  rw [afterwards_eq, NameTable.lookup_filled]

/-- The names in the table are those that properties were inserted under. -/
theorem names_slots_afterwards :
    (afterwards type make insertions).slots.map (·.1) =
      ((inserted insertions).map (·.1)).eraseDups := by
  rw [afterwards_eq, NameTable.names_filled]

/-- Each name has one slot. -/
theorem nodup_slots_afterwards :
    ((afterwards type make insertions).slots.map (·.1)).Nodup := by
  rw [afterwards_eq]
  exact NameTable.nodup_names_filled _

/-- A name that a property was inserted under belongs to a property. -/
theorem exists_property_afterwards {name : String}
    (among : name ∈ (inserted insertions).map (·.1)) :
    ∃ info, (afterwards type make insertions).property? name = some info := by
  rw [← List.mem_eraseDups, ← names_slots_afterwards type make] at among
  obtain ⟨⟨_, info⟩, here, rfl⟩ := List.mem_map.1 among
  exact ⟨info, NameTable.lookup_of_mem (nodup_slots_afterwards type make insertions) here⟩

/-- A property stands under its own name. -/
theorem name_of_mem_slots {entry : String × PropertyInfo}
    (among : entry ∈ (afterwards type make insertions).slots) : entry.2.name = entry.1 := by
  rw [afterwards_eq] at among
  obtain ⟨insertion, -, slot⟩ := List.mem_filterMap.1 (NameTable.mem_filled among)
  cases insertion with
  | property info =>
    cases slot
    rfl
  | aliasFor name target => cases slot

/-- The names are those of the slots. -/
theorem propertyNames_afterwards :
    (afterwards type make insertions).propertyNames =
      (afterwards type make insertions).slots.map (·.1) := by
  rw [propertyNames, properties, List.map_map]
  exact List.map_congr_left fun entry among => name_of_mem_slots type make insertions among

/-- A listed property is found under its name. -/
theorem property?_of_mem_properties {info : PropertyInfo}
    (among : info ∈ (afterwards type make insertions).properties) :
    (afterwards type make insertions).property? info.name = some info := by
  obtain ⟨entry, here, rfl⟩ := List.mem_map.1 among
  rw [name_of_mem_slots type make insertions here]
  exact NameTable.lookup_of_mem (nodup_slots_afterwards type make insertions) here

end

end TypeMeta

/-! ## A row with an index -/

/-- Properties in a row, the place of each name in it, and the aliases. -/
structure IndexedMeta where
  /-- The properties in order. -/
  row : List PropertyInfo := []
  /-- The place of each name. -/
  places : NameTable Nat := []
  /-- The aliases, each with the name of its property. -/
  aliases : NameTable String := []

namespace IndexedMeta

/-- Inserts a property, at the place of its name or behind all others, or an alias. There is no
result if the index leads out of the row. -/
def insert? (indexed : IndexedMeta) : TypeMeta.Insertion → Option IndexedMeta
  | .property info =>
    match indexed.places.lookup info.name with
    | some place =>
      if place < indexed.row.length then some { indexed with row := indexed.row.set place info }
      else none
    | none =>
      some { indexed with
        row := indexed.row ++ [info]
        places := indexed.places.put info.name indexed.row.length }
  | .aliasFor name target => some { indexed with aliases := indexed.aliases.put name target }

/-- The property of a name, if it has one. There is no result if the index leads out of the row. -/
def property? (indexed : IndexedMeta) (name : String) : Option (Option PropertyInfo) :=
  match indexed.places.lookup name with
  | some place => indexed.row[place]?.map some
  | none => some none

/-- The property of a name or of an alias. -/
def resolve? (indexed : IndexedMeta) (name : String) : Option (Option PropertyInfo) :=
  (indexed.property? name).bind fun
    | some info => some (some info)
    | none => ((indexed.aliases.lookup name).map indexed.property?).getD (some none)

/-- The row, the index and the aliases hold what stands in a table. -/
structure InStep (indexed : IndexedMeta) (table : TypeMeta) : Prop where
  /-- No name stands twice in the table. -/
  distinct : (table.slots.map (·.1)).Nodup
  /-- The row is that of the properties. -/
  row : indexed.row = table.properties
  /-- The index leads to the places of the names. -/
  lookup_iff (name : String) (place : Nat) :
    indexed.places.lookup name = some place ↔ (table.slots.map (·.1))[place]? = some name
  /-- The aliases are those of the table. -/
  aliases : indexed.aliases = table.aliases

variable {indexed : IndexedMeta} {table : TypeMeta}

/-- A name without a place stands nowhere in the table. -/
theorem InStep.not_mem (inStep : indexed.InStep table) {name : String}
    (missing : indexed.places.lookup name = none) : name ∉ table.slots.map (·.1) := by
  intro among
  obtain ⟨place, found⟩ := List.mem_iff_getElem?.1 among
  rw [(inStep.lookup_iff name place).2 found] at missing
  cases missing

/-- The same property is found by the index as in the table. -/
theorem InStep.property?_eq (inStep : indexed.InStep table) (name : String) :
    indexed.property? name = some (table.property? name) := by
  rw [property?, TypeMeta.property?]
  cases found : indexed.places.lookup name with
  | none => rw [NameTable.lookup_of_lacks (inStep.not_mem found)]
  | some place =>
    have here := (inStep.lookup_iff name place).1 found
    rw [List.getElem?_map, Option.map_eq_some_iff] at here
    obtain ⟨⟨_, info⟩, here, rfl⟩ := here
    rw [NameTable.lookup_of_mem inStep.distinct (List.mem_of_getElem? here), inStep.row]
    simp [TypeMeta.properties, here]

/-- The same properties are found by the index as in the table. -/
theorem InStep.resolve?_eq (inStep : indexed.InStep table) (name : String) :
    indexed.resolve? name = some (table.resolve? name) := by
  rw [resolve?, TypeMeta.resolve?, inStep.property?_eq, Option.bind_some, inStep.aliases]
  cases table.property? name with
  | some info => rfl
  | none => cases table.aliases.lookup name <;> simp [inStep.property?_eq]

/-- A name in a longer list stands where it stood, or is the last. -/
theorem getElem?_concat_eq_some_iff {names : List String} {name last : String} {place : Nat} :
    (names ++ [last])[place]? = some name ↔
      names[place]? = some name ∨ place = names.length ∧ last = name := by
  rcases Nat.lt_trichotomy place names.length with before | rfl | behind
  · simp [List.getElem?_append_left before, Nat.ne_of_lt before]
  · simp
  · have outside : (names ++ [last])[place]? = none :=
      List.getElem?_eq_none (by rw [List.length_append]; exact behind)
    rw [outside, List.getElem?_eq_none (Nat.le_of_lt behind)]
    simp [Nat.ne_of_gt behind]

/-- A property can be inserted, and the row and the index stay in step with the table. -/
theorem InStep.insertProperty (inStep : indexed.InStep table) (info : PropertyInfo) :
    ∃ next, indexed.insert? (.property info) = some next ∧
      next.InStep (table.insertProperty info) := by
  rw [insert?]
  cases found : indexed.places.lookup info.name with
  | some place =>
    have here := (inStep.lookup_iff info.name place).1 found
    have inside : place < indexed.row.length := by
      obtain ⟨bound, -⟩ := List.getElem?_eq_some_iff.1 here
      rw [inStep.row]
      simpa [TypeMeta.properties] using bound
    refine ⟨_, if_pos inside, NameTable.nodup_put inStep.distinct, ?_, fun name other => ?_,
      inStep.aliases⟩
    · rw [TypeMeta.properties, TypeMeta.insertProperty,
        NameTable.put_of_getElem? inStep.distinct here, List.map_set, inStep.row]
      rfl
    · rw [TypeMeta.insertProperty, NameTable.names_put, if_pos (List.mem_of_getElem? here)]
      exact inStep.lookup_iff name other
  | none =>
    have missing := inStep.not_mem found
    have size : indexed.row.length = (table.slots.map (·.1)).length := by
      rw [inStep.row, TypeMeta.properties, List.length_map, List.length_map]
    refine ⟨_, rfl, NameTable.nodup_put inStep.distinct, ?_, fun name other => ?_,
      inStep.aliases⟩
    · rw [TypeMeta.properties, TypeMeta.insertProperty, NameTable.put_of_lacks missing,
        List.map_append, inStep.row]
      rfl
    · rw [TypeMeta.insertProperty, NameTable.names_put, if_neg missing, NameTable.lookup_put,
        getElem?_concat_eq_some_iff, ← inStep.lookup_iff, size]
      by_cases same : name = info.name
      · simp [same, found, eq_comm]
      · simp [same, Ne.symm same]

/-- An alias leaves index and table in step. -/
theorem InStep.insertAlias (inStep : indexed.InStep table) (name target : String) :
    ∃ next, indexed.insert? (.aliasFor name target) = some next ∧
      next.InStep (table.insertAlias name target) :=
  ⟨_, rfl, inStep.distinct, inStep.row, inStep.lookup_iff,
    congrArg (NameTable.put · name target) inStep.aliases⟩

/-- No insertion of a row fails, and the index stays in step with the table. -/
theorem exists_inStep_afterwards (type : TypeRef) (make : Option Constructor)
    (insertions : List TypeMeta.Insertion) :
    ∃ indexed, insertions.foldlM insert? {} = some indexed ∧
      indexed.InStep (.afterwards type make insertions) := by
  induction insertions using List.reverseRecOn with
  | nil => exact ⟨{}, rfl, List.nodup_nil, rfl, by simp [TypeMeta.afterwards], rfl⟩
  | append_singleton insertions insertion ih =>
    obtain ⟨before, run, inStep⟩ := ih
    have step : ∃ next, before.insert? insertion = some next ∧
        next.InStep ((TypeMeta.afterwards type make insertions).insert insertion) := by
      cases insertion with
      | property info => exact inStep.insertProperty info
      | aliasFor name target => exact inStep.insertAlias name target
    obtain ⟨next, done, stays⟩ := step
    refine ⟨next, ?_, ?_⟩
    · simp [List.foldlM_append, run, done]
    · rw [TypeMeta.afterwards_concat]
      exact stays

end IndexedMeta

namespace TypeMeta

/-- After any row of insertions the table lists the names of its properties once each, in the order
of their first insertion, and has under each the property that was inserted last. A name leads to
its property if it has one, and otherwise to the property of the target of its last alias. So the
turns at which aliases are inserted do not matter, and no alias hides a property. The same is found
by an index of places, which never leads out of the row of properties. -/
theorem resolve?_afterwards (type : TypeRef) (make : Option Constructor)
    (insertions : List Insertion) :
    let table := afterwards type make insertions
    let lastProperty := NameTable.last? (inserted insertions)
    let lastTarget := NameTable.last? (aliased insertions)
    table.propertyNames.Nodup ∧
    table.propertyNames = ((inserted insertions).map (·.1)).eraseDups ∧
    (∀ info ∈ table.properties, table.property? info.name = some info) ∧
    (∀ name, table.property? name = lastProperty name) ∧
    (∀ name, table.resolve? name =
      (lastProperty name).or ((lastTarget name).bind lastProperty)) ∧
    (∀ others, inserted others = inserted insertions → aliased others = aliased insertions →
      (afterwards type make others).resolve? = table.resolve?) ∧
    (∀ name ∈ (inserted insertions).map (·.1), ∃ info,
      table.property? name = some info ∧ table.resolve? name = some info) ∧
    ∃ indexed, insertions.foldlM IndexedMeta.insert? {} = some indexed ∧
      indexed.row = table.properties ∧
      (∀ name, indexed.property? name = some (table.property? name)) ∧
      ∀ name, indexed.resolve? name = some (table.resolve? name) := by
  intro table lastProperty lastTarget
  have names := propertyNames_afterwards type make insertions
  have direct : table.property? = lastProperty := funext (property?_afterwards type make insertions)
  refine ⟨?_, ?_, fun info => property?_of_mem_properties type make insertions, congrFun direct,
    fun name => ?_, fun others properties aliases => ?_, fun name among => ?_, ?_⟩
  · rw [names]
    exact nodup_slots_afterwards type make insertions
  · rw [names, names_slots_afterwards]
  · rw [resolve?, direct, target_afterwards]
  · rw [afterwards_eq type make others, properties, aliases, ← afterwards_eq]
  · obtain ⟨info, found⟩ := exists_property_afterwards type make insertions among
    exact ⟨info, found, by rw [resolve?, found, Option.some_or]⟩
  · obtain ⟨indexed, run, inStep⟩ := IndexedMeta.exists_inStep_afterwards type make insertions
    exact ⟨indexed, run, inStep.row, inStep.property?_eq, inStep.resolve?_eq⟩

/-- The property that is inserted last is found under its name and its alias. -/
theorem resolve?_afterwards_person :
    let person : TypeRef := { path := "people::Person" }
    let renewed : PropertyInfo := { name := "name", type := .any }
    let properties : List Insertion := [.property { name := "name", type := .text },
      .property { name := "age", type := .int .i32 }, .property renewed]
    let aliases : List Insertion :=
      [.aliasFor "title" "name", .aliasFor "name" "age", .aliasFor "label" "lost"]
    let table := afterwards person none (properties ++ aliases)
    table.propertyNames = ["name", "age"] ∧ table.resolve? "name" = some renewed ∧
      table.resolve? "title" = some renewed ∧ table.resolve? "label" = none ∧
      (afterwards person none (aliases ++ properties)).resolve? = table.resolve? := by
  intro person renewed properties aliases table
  obtain ⟨-, listed, -, -, resolves, turns, -, -⟩ :=
    resolve?_afterwards person none (properties ++ aliases)
  exact ⟨listed.trans (by decide), (resolves "name").trans rfl, (resolves "title").trans rfl,
    (resolves "label").trans rfl, turns (aliases ++ properties) rfl rfl⟩

end TypeMeta

end PropertyGraph
