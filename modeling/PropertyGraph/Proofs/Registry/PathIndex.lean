import Mathlib.Data.List.Induction
import PropertyGraph.Proofs.Registry.Registration

/-!
# The path index follows the types

Next to the tables a registry keeps an index from paths to types. What is found by a path is always
registered and has that path. That every registered type is found by its path is another matter:
types are told apart by more than their paths, and removing a type takes its path from the index,
also where another registered type has the same one. Such a removal is the only way to lose a type.
-/
namespace PropertyGraph

/-- A name that is taken out of a table is not found; every other name keeps its entry. -/
theorem NameTable.lookup_filter_ne {α : Type} (table : NameTable α) (name other : String) :
    (table.filter (·.1 != name)).lookup other =
      if other = name then none else table.lookup other := by
  induction table with
  | nil => simp
  | cons head rest ih =>
    obtain ⟨first, entry⟩ := head
    by_cases taken : first = name
    · by_cases same : other = name
      · simpa [taken, same] using ih
      · simpa [taken, same, List.lookup_cons, beq_false_of_ne same] using ih
    · by_cases here : other = first
      · subst here
        simp [taken]
      · simp [taken, List.lookup_cons, beq_false_of_ne here, ih]

namespace Registry

/-- The table that is found for a type is a table of that type. -/
theorem get?_type {registry : Registry} {type : TypeRef} {table : TypeMeta}
    (found : registry.get? type = some table) : table.type = type := by
  simpa using List.find?_some found

/-- A removal takes one type out of the known ones. -/
theorem contains_remove (registry : Registry) (type other : TypeRef) :
    (registry.remove type).2.contains other = true ↔
      registry.contains other = true ∧ other ≠ type := by
  unfold remove
  cases found : registry.get? type with
  | none =>
    refine ⟨fun registered => ⟨registered, ?_⟩, And.left⟩
    rintro rfl
    obtain ⟨table, there⟩ := (contains_iff registry other).1 registered
    rw [found] at there
    cases there
  | some table =>
    simp only [contains, List.any_filter, List.any_eq_true, Bool.and_eq_true, bne_iff_ne,
      beq_iff_eq]
    constructor
    · rintro ⟨entry, among, different, rfl⟩
      exact ⟨⟨entry, among, rfl⟩, different⟩
    · rintro ⟨⟨entry, among, rfl⟩, different⟩
      exact ⟨entry, among, different, rfl⟩

/-- Removing a registered type takes its path from the index, and no other one. -/
theorem lookup_paths_remove {registry : Registry} {type : TypeRef}
    (registered : registry.contains type = true) (path : String) :
    (registry.remove type).2.paths.lookup path =
      if path = type.path then none else registry.paths.lookup path := by
  obtain ⟨table, found⟩ := (contains_iff registry type).1 registered
  rw [remove, found]
  dsimp only
  rw [NameTable.lookup_filter_ne, get?_type found]

/-- Removing a type that is not registered changes nothing. -/
theorem remove_of_lacks {registry : Registry} {type : TypeRef} (absent : registry.Lacks type) :
    (registry.remove type).2 = registry := by
  have notFound : registry.get? type = none := by
    cases found : registry.get? type with
    | none => rfl
    | some table =>
      have registered := (contains_iff registry type).2 ⟨table, found⟩
      rw [absent] at registered
      cases registered
  rw [remove, notFound]

/-! ## The index and the tables -/

/-- Each path of the index leads to a registered type of that path. -/
def PathsLead (registry : Registry) : Prop :=
  ∀ path type, registry.paths.lookup path = some type →
    registry.contains type = true ∧ type.path = path

/-- The path of each registered type stands in the index. -/
def PathsCover (registry : Registry) : Prop :=
  ∀ type, registry.contains type = true → ∃ other, registry.paths.lookup type.path = some other

/-- A path finds a type exactly if a registered type has it, and what it finds is registered and
has the path. -/
structure PathsFollow (registry : Registry) : Prop where
  /-- What is found is registered and has the path. -/
  found (path : String) (table : TypeMeta) : registry.getPath? path = some table →
    registry.get? table.type = some table ∧ table.type.path = path
  /-- A path finds a type exactly if a registered type has it. -/
  finds_iff (path : String) : (∃ table, registry.getPath? path = some table) ↔
    ∃ type, registry.contains type = true ∧ type.path = path

/-- A table is found by its path through the type that the index has for it. -/
theorem getPath?_eq_some_iff {registry : Registry} {path : String} {table : TypeMeta} :
    registry.getPath? path = some table ↔
      ∃ type, registry.paths.lookup path = some type ∧ registry.get? type = some table :=
  Option.bind_eq_some_iff

/-- Where paths lead to registered types, the index follows the types if it covers them. -/
theorem PathsLead.follow_iff {registry : Registry} (lead : registry.PathsLead) :
    registry.PathsFollow ↔ registry.PathsCover := by
  constructor
  · intro follow type registered
    obtain ⟨table, found⟩ := (follow.finds_iff type.path).2 ⟨type, registered, rfl⟩
    obtain ⟨other, leads, -⟩ := getPath?_eq_some_iff.1 found
    exact ⟨other, leads⟩
  · intro cover
    have found : ∀ path table, registry.getPath? path = some table →
        registry.get? table.type = some table ∧ table.type.path = path := by
      intro path table finds
      obtain ⟨type, leads, there⟩ := getPath?_eq_some_iff.1 finds
      obtain rfl := get?_type there
      exact ⟨there, (lead path table.type leads).2⟩
    refine ⟨found, fun path => ⟨?_, ?_⟩⟩
    · rintro ⟨table, finds⟩
      obtain ⟨there, hasPath⟩ := found path table finds
      exact ⟨table.type, (contains_iff registry table.type).2 ⟨table, there⟩, hasPath⟩
    · rintro ⟨type, registered, rfl⟩
      obtain ⟨other, leads⟩ := cover type registered
      obtain ⟨table, there⟩ := (contains_iff registry other).1 (lead _ _ leads).1
      exact ⟨table, getPath?_eq_some_iff.2 ⟨other, leads, there⟩⟩

/-! ## What the operations do to the index -/

/-- The index of the empty registry leads nowhere. -/
theorem pathsLead_empty : empty.PathsLead := by
  intro path type leads
  cases leads

/-- The empty registry has no types to cover. -/
theorem pathsCover_empty : empty.PathsCover := by
  intro type registered
  cases registered

/-- An insertion lets paths lead to types that have them. -/
theorem PathsLead.insert {registry : Registry} (lead : registry.PathsLead) (table : TypeMeta) :
    (registry.insert table).PathsLead := by
  intro path type leads
  rw [Registry.insert, NameTable.lookup_put] at leads
  rw [contains_insert, Bool.or_eq_true, beq_iff_eq]
  split at leads
  · next same =>
    obtain rfl := Option.some.inj leads
    exact ⟨.inl rfl, same.symm⟩
  · exact ⟨.inr (lead path type leads).1, (lead path type leads).2⟩

/-- An insertion lets every type be covered. -/
theorem PathsCover.insert {registry : Registry} (cover : registry.PathsCover) (table : TypeMeta) :
    (registry.insert table).PathsCover := by
  intro type registered
  rw [contains_insert, Bool.or_eq_true, beq_iff_eq] at registered
  rw [Registry.insert, NameTable.lookup_put]
  split
  · exact ⟨table.type, rfl⟩
  · next different =>
    obtain rfl | before := registered
    · exact absurd rfl different
    · exact cover type before

/-- A removal lets paths lead to types that have them. -/
theorem PathsLead.remove {registry : Registry} (lead : registry.PathsLead) (type : TypeRef) :
    (registry.remove type).2.PathsLead := by
  cases registered : registry.contains type with
  | false => rwa [remove_of_lacks registered]
  | true =>
    intro path other leads
    rw [lookup_paths_remove registered] at leads
    split at leads
    · cases leads
    · next different =>
      obtain ⟨there, rfl⟩ := lead path other leads
      refine ⟨(contains_remove registry type other).2 ⟨there, ?_⟩, rfl⟩
      rintro rfl
      exact different rfl

/-- No other registered type has the path of the type. -/
def HasOwnPath (registry : Registry) (type : TypeRef) : Prop :=
  ∀ other, registry.contains other = true → other.path = type.path → other = type

/-- A removal keeps the index covering exactly if no other registered type has the path of the
type that is removed. -/
theorem PathsCover.remove_iff {registry : Registry} (cover : registry.PathsCover) {type : TypeRef}
    (registered : registry.contains type = true) :
    (registry.remove type).2.PathsCover ↔ registry.HasOwnPath type := by
  constructor
  · intro still other there same
    by_contra different
    -- The other type stays registered, but its path is the one that has left the index.
    obtain ⟨found, leads⟩ := still other ((contains_remove _ _ _).2 ⟨there, different⟩)
    rw [lookup_paths_remove registered, if_pos same] at leads
    cases leads
  · intro own other there
    obtain ⟨before, different⟩ := (contains_remove _ _ _).1 there
    rw [lookup_paths_remove registered, if_neg fun same => different (own other before same)]
    exact cover other before

/-! ## Rows of operations -/

/-- What can be done to a registry. -/
inductive Operation where
  /-- Starts anew with the registry that knows type handles. -/
  | new
  /-- Starts anew with the registry of no type. -/
  | empty
  /-- Registers a type and what its fields lead to. -/
  | register (type : TypeRef)
  /-- Inserts a table unless its type is registered. -/
  | tryInsert (table : TypeMeta)
  /-- Inserts a table. -/
  | insert (table : TypeMeta)
  /-- Removes a type. -/
  | remove (type : TypeRef)
  /-- Removes all types. -/
  | clear

/-- The registry after one operation. -/
def perform (catalogue : Catalogue) (registry : Registry) : Operation → Registry
  | .new => withHandles
  | .empty => empty
  | .register type => (register catalogue registry type).1
  | .tryInsert table => (registry.tryInsert table).2
  | .insert table => registry.insert table
  | .remove type => (registry.remove type).2
  | .clear => empty

/-- The registry after a row of operations. -/
def run (catalogue : Catalogue) (operations : List Operation) : Registry :=
  operations.foldl (perform catalogue) empty

/-- The last operation runs on what the others leave. -/
theorem run_concat (catalogue : Catalogue) (operations : List Operation) (operation : Operation) :
    run catalogue (operations ++ [operation]) =
      perform catalogue (run catalogue operations) operation := by
  rw [run, List.foldl_append]
  rfl

/-- What all insertions keep and the registry of no type has is kept by every operation but a
removal. -/
theorem perform_keeps {Kept : Registry → Prop} (catalogue : Catalogue) (start : Kept empty)
    (insert : ∀ registry table, Kept registry → Kept (registry.insert table))
    {registry : Registry} (kept : Kept registry) (operation : Operation)
    (remove : ∀ type, operation = .remove type → Kept (registry.remove type).2) :
    Kept (perform catalogue registry operation) := by
  cases operation with
  | new => exact insert _ _ start
  | empty => exact start
  | register type => exact (registers_register catalogue registry type).keeps insert kept
  | tryInsert table =>
    rw [perform, tryInsert]
    split
    · exact kept
    · exact insert _ _ kept
  | insert table => exact insert _ _ kept
  | remove type => exact remove type rfl
  | clear => exact start

/-- After every row of operations the paths of the index lead to registered types. -/
theorem pathsLead_run (catalogue : Catalogue) (operations : List Operation) :
    (run catalogue operations).PathsLead := by
  induction operations using List.reverseRecOn with
  | nil => exact pathsLead_empty
  | append_singleton before operation ih =>
    rw [run_concat]
    exact perform_keeps catalogue pathsLead_empty (fun _ table lead => lead.insert table) ih
      operation fun type _ => ih.remove type

/-- The operation removes no type whose path another registered type has. -/
def Operation.Spares (registry : Registry) (operation : Operation) : Prop :=
  ∀ type, operation = .remove type → registry.contains type = true → registry.HasOwnPath type

/-- An operation keeps the index covering exactly if it removes no type that shares its path. -/
theorem PathsCover.perform_iff {registry : Registry} (cover : registry.PathsCover)
    (catalogue : Catalogue) (operation : Operation) :
    (perform catalogue registry operation).PathsCover ↔ operation.Spares registry := by
  constructor
  · rintro still type rfl registered
    exact (cover.remove_iff registered).1 still
  · intro spares
    refine perform_keeps catalogue pathsCover_empty (fun _ table covers => covers.insert table)
      cover operation fun type same => ?_
    cases registered : registry.contains type with
    | false => rwa [remove_of_lacks registered]
    | true => exact (cover.remove_iff registered).2 (spares type same registered)

/-- Over a row of operations the index follows the types after each of them exactly if no removal
takes a type whose path another registered type has. What is found by a path is registered and has
the path in any case. -/
theorem pathsFollow_iff (catalogue : Catalogue) (operations : List Operation) :
    (∀ path table, (run catalogue operations).getPath? path = some table →
      (run catalogue operations).get? table.type = some table ∧ table.type.path = path) ∧
    ((∀ before, before <+: operations → (run catalogue before).PathsFollow) ↔
      ∀ before operation, before ++ [operation] <+: operations →
        operation.Spares (run catalogue before)) := by
  constructor
  · intro path table finds
    obtain ⟨type, leads, there⟩ := getPath?_eq_some_iff.1 finds
    obtain rfl := get?_type there
    exact ⟨there, (pathsLead_run catalogue operations path table.type leads).2⟩
  simp only [(pathsLead_run catalogue _).follow_iff]
  constructor
  · intro cover before operation upTo
    have still := cover _ upTo
    rw [run_concat] at still
    exact ((cover before ((List.prefix_append _ _).trans upTo)).perform_iff _ _).1 still
  · intro spares before
    induction before using List.reverseRecOn with
    | nil => exact fun _ => pathsCover_empty
    | append_singleton before operation ih =>
      intro upTo
      rw [run_concat]
      have cover := ih ((List.prefix_append _ _).trans upTo)
      exact (cover.perform_iff _ _).2 (spares before operation upTo)

/-- Of two types with one path the one that stays is no longer found once the other is removed. -/
theorem getPath?_of_twin_removed :
    let first : TypeRef := { path := "shapes::Point", serial := 0 }
    let second : TypeRef := { path := "shapes::Point", serial := 1 }
    let registry := run ⟨[], []⟩
      [.insert { type := first }, .insert { type := second }, .remove first]
    registry.contains second = true ∧ second.path = "shapes::Point" ∧
      registry.getPath? "shapes::Point" = none :=
  ⟨rfl, rfl, rfl⟩

end Registry

end PropertyGraph
