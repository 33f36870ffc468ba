import PropertyGraph.Proofs.Graph.Layout
import PropertyGraph.Proofs.Path.Names
import PropertyGraph.Proofs.Read.Trail

/-!
# Denied metadata

The policy is asked whether a name on a type handle is denied, as the name is written. The registry
then finds the property of the name, which may be an alias of it. So the properties that the policy
denies are out of reach exactly if it denies their aliases as well, as far as these can stand in a
path.
-/
namespace PropertyGraph

/-- The name of the property that a name or an alias stands for. -/
def TypeMeta.canonical? (table : TypeMeta) (name : String) : Option String :=
  if (table.property? name).isSome then some name
  else (table.aliases.lookup name).filter fun property => (table.property? property).isSome

/-- A name resolves to the property that it stands for. -/
theorem TypeMeta.resolve?_eq_canonical? (table : TypeMeta) (name : String) :
    table.resolve? name = (table.canonical? name).bind table.property? := by
  cases found : table.property? name with
  | some info => simp [resolve?, canonical?, found]
  | none =>
    cases aliased : table.aliases.lookup name with
    | none => simp [resolve?, canonical?, found, aliased]
    | some property =>
      cases found' : table.property? property with
      | none => simp [resolve?, canonical?, found, aliased, found', Option.filter_some]
      | some info => simp [resolve?, canonical?, found, aliased, found', Option.filter_some]

/-- What a name stands for is a property. -/
theorem TypeMeta.exists_of_canonical? {table : TypeMeta} {name property : String}
    (stands : table.canonical? name = some property) :
    ∃ info, table.property? property = some info := by
  unfold canonical? at stands
  split at stands
  case isTrue found =>
    obtain rfl := Option.some.inj stands
    exact Option.isSome_iff_exists.1 found
  case isFalse =>
    obtain ⟨-, found⟩ := Option.filter_eq_some_iff.1 stands
    exact Option.isSome_iff_exists.1 found

namespace Accessor

/-- The path comes to a type handle and goes on with a name that stands for a denied property of
it. -/
def PassesDenied (accessor : Accessor) (world : World) (root : BeanRef) (path : PropertyPath) :
    Prop :=
  ∃ before label later cursor middle ref table property,
    path.segments = before ++ .name label :: later ∧
      accessor.ComesTo world root before cursor middle ∧
      cursor.value.unwrapped = .bean ref ∧ ref.type = TypeHandle.type ∧
      accessor.registry.get? TypeHandle.type = some table ∧
      table.canonical? label = some property ∧ accessor.policy.denies property = true

/-- The policy denies every name in a path that stands for a denied property of type handles. -/
def DeniesAliases (accessor : Accessor) : Prop :=
  ∀ table label property, accessor.registry.get? TypeHandle.type = some table →
    PropertyPath.isPlainName label = true → table.canonical? label = some property →
    accessor.policy.denies property = true → accessor.policy.denies label = true

section

variable {accessor : Accessor} {world middle after : World} {root ref : BeanRef}
  {before later : List Segment} {label : String} {cursor next : Cursor} {path : PropertyPath}

/-- A name that is denied is nothing on a type handle. -/
theorem capability?_of_denied (isHandle : ref.type = TypeHandle.type)
    (denied : accessor.policy.denies label = true) :
    accessor.capability? ref.type label = none :=
  if_pos ⟨isHandle, denied⟩

/-- No row of segments comes further than a name that is nothing on its bean. -/
theorem ComesTo.not_of_capability? (comes : accessor.ComesTo world root before cursor middle)
    (isBean : cursor.value.unwrapped = .bean ref)
    (nothing : accessor.capability? ref.type label = none) :
    ¬ accessor.ComesTo world root (before ++ .name label :: later) next after := by
  intro further
  obtain ⟨between, reached, passes, -⟩ :=
    further.of_append (List.append_cons before (.name label) later)
  obtain ⟨cursor', middle', comes', -, stepped⟩ := passes.of_concat
  obtain ⟨rfl, rfl⟩ := comes.unique comes'
  simp [Accessor.step, isBean, readName, nothing] at stepped

/-- No path is read through a name that is nothing on its bean. -/
theorem get_ne_ok_of_capability? (comes : accessor.ComesTo world root before cursor middle)
    (isBean : cursor.value.unwrapped = .bean ref)
    (nothing : accessor.capability? ref.type label = none)
    (split : path.segments = before ++ .name label :: later) (value : Value) :
    (accessor.get root path).runOn world ≠ (.ok value, after) := by
  intro done
  obtain ⟨next, further, -⟩ := get_eq_ok_iff.1 done
  exact comes.not_of_capability? isBean nothing (split ▸ further)

/-- No path is described through a name that is nothing on its bean. -/
theorem describe_ne_ok_of_capability? (comes : accessor.ComesTo world root before cursor middle)
    (isBean : cursor.value.unwrapped = .bean ref)
    (nothing : accessor.capability? ref.type label = none)
    (split : path.segments = before ++ .name label :: later) (descriptor : PropertyDescriptor) :
    (accessor.describe root path).runOn world ≠ (.ok descriptor, after) := by
  intro done
  obtain ⟨parent, reached, walked, done⟩ := Access.runOn_bind_eq_ok_iff.1 done
  obtain ⟨split', further, -⟩ := parent_eq_ok_iff.1 walked
  rw [split] at split'
  rcases later.eq_nil_or_concat with rfl | ⟨rest, last, rfl⟩
  · obtain ⟨same, sameLast⟩ := List.append_inj' split' rfl
    have last : parent.last = .name label := by simpa using sameLast.symm
    obtain ⟨rfl, rfl⟩ := comes.unique (same ▸ further)
    simp [describeStep, last, isBean, nothing] at done
  · have shorter : before ++ .name label :: rest = parent.before := by
      rw [List.concat_eq_append, ← List.cons_append, ← List.append_assoc] at split'
      exact (List.append_inj' split' rfl).1
    exact comes.not_of_capability? isBean nothing (shorter ▸ further)

/-- A name that stands for a property of type handles is described on every handle unless the name
itself is denied. -/
theorem describe_of_canonical? {table : TypeMeta} {property : String}
    (isHandle : root.type = TypeHandle.type)
    (registered : accessor.registry.get? TypeHandle.type = some table)
    (stands : table.canonical? label = some property)
    (allowed : accessor.policy.denies label = false) :
    ∃ descriptor, (accessor.describe root ⟨.name label, []⟩).runOn world =
      (.ok descriptor, world) := by
  obtain ⟨info, found⟩ := TypeMeta.exists_of_canonical? stands
  have names : accessor.capability? root.type label = some (.property info) := by
    simp [capability?, isHandle, allowed, Registry.describe?, registered,
      TypeMeta.resolve?_eq_canonical?, stands, found]
  have walked : (accessor.parent root ⟨.name label, []⟩).runOn world =
      (.ok ⟨.root root, [], .name label⟩, world) := rfl
  refine ⟨⟨label, root.type, info.type, info.isReadable, info.isWritable⟩, ?_⟩
  rw [describe, Access.runOn_bind_of_ok walked]
  simp [describeStep, Cursor.root, Value.unwrapped, Value.present?, names, Segment.render,
    Segment.renderChars, Segment.chars]

variable (accessor) in
/-- Denied properties of type handles are out of reach on every path exactly if the policy denies
every name that stands for one. -/
theorem denied_unreachable_iff :
    (∀ world root text path, world.Has root → PropertyPath.parse text = .ok path →
      accessor.PassesDenied world root path →
      (∀ value after, (accessor.get root path).runOn world ≠ (.ok value, after)) ∧
      ∀ descriptor after, (accessor.describe root path).runOn world ≠ (.ok descriptor, after)) ↔
    accessor.DeniesAliases := by
  constructor
  · intro unreachable table label property registered plain stands denied
    by_contra allowed
    -- the handle of any type will do; here it is that of type handles
    let added := (default : World).add (TypeHandle.bean TypeHandle.type)
    have isHandle : added.1.type = TypeHandle.type := rfl
    have passes : accessor.PassesDenied added.2 added.1 ⟨.name label, []⟩ :=
      ⟨[], label, [], .root _, _, _, table, property, rfl, .root, rfl, isHandle, registered,
        stands, denied⟩
    obtain ⟨descriptor, described⟩ :=
      describe_of_canonical? isHandle registered stands (by simpa using allowed)
    exact (unreachable _ _ _ _ (World.has_add _ _) (PropertyPath.parse_of_isPlainName plain)
      passes).2 _ _ described
  · rintro denies world root text path - isParsed ⟨before, label, later, cursor, middle, ref,
      table, property, split, comes, isBean, isHandle, registered, stands, denied⟩
    have among : .name label ∈ path.segments := by simp [split]
    have plain := PropertyPath.isPlainName_of_parse isParsed among
    have nothing : accessor.capability? ref.type label = none :=
      capability?_of_denied isHandle (denies table label property registered plain stands denied)
    exact ⟨fun value after => get_ne_ok_of_capability? comes isBean nothing split value,
      fun descriptor after => describe_ne_ok_of_capability? comes isBean nothing split descriptor⟩

end

open Household in
/-- With `mod` for an alias of the module of a type, the denied module of a person can be read. -/
theorem get_alias_of_module :
    let registry := accessor.registry.modify? TypeHandle.type fun table =>
      some (table.insertAlias "mod" "module")
    let aliased := { accessor with registry := registry.getD accessor.registry }
    let path : PropertyPath := ⟨.name "class", [.name "mod"]⟩
    registry.isSome = true ∧ PropertyPath.parse "class.mod" = .ok path ∧
      aliased.PassesDenied (world []) eve path ∧
      ((aliased.get eve path).runOn (world [])).1.toOption.bind Value.text? =
        some "household" := by
  intro registry aliased path
  have isParsed : PropertyPath.parse "class.mod" = .ok path := by decide +kernel
  refine ⟨rfl, isParsed, ⟨[.name "class"], "mod", [], _, _, _, _, "module", rfl,
    .step [] (.name "class") _ _ _ _ .root rfl rfl, rfl, rfl, rfl, rfl, rfl⟩, rfl⟩

end Accessor

end PropertyGraph
