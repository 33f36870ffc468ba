import PropertyGraph.Registry.Basic

/-!
# What a registration registers

A type is registered together with the types that its fields lead to, and a type that is registered
already is not looked behind. What is new afterwards are therefore exactly the types that a chain of
dependencies reaches whose types were all unknown before, the first and the last included. Types
that lead to each other in a circle, or to themselves, are registered once: a registration never
goes deeper than the number of types that are missing.
-/
namespace PropertyGraph

/-! ## Tables of a registry -/

namespace Registry

/-- A table that is put is found for its type, and every other type finds what it found. -/
theorem find?_putTable (table : TypeMeta) (tables : List TypeMeta) (type : TypeRef) :
    (putTable table tables).find? (·.type == type) =
      if table.type = type then some table else tables.find? (·.type == type) := by
  induction tables with
  | nil =>
    by_cases same : table.type = type
    · simp [putTable, same]
    · simp [putTable, same]
  | cons other rest ih =>
    by_cases replaced : other.type = table.type
    · by_cases same : table.type = type
      · simp [putTable, replaced, same]
      · simp [putTable, replaced, same]
    · by_cases here : other.type = type
      · have different : table.type ≠ type := fun same => replaced (here.trans same.symm)
        simp [putTable, here, different, different.symm]
      · simp [putTable, replaced, here, ih]

/-- A table that is inserted is found under its type; every other type keeps its table. -/
theorem get?_insert (registry : Registry) (table : TypeMeta) (type : TypeRef) :
    (registry.insert table).get? type =
      if table.type = type then some table else registry.get? type :=
  find?_putTable table registry.tables type

/-- A type is registered if it has a table. -/
theorem contains_iff (registry : Registry) (type : TypeRef) :
    registry.contains type = true ↔ ∃ table, registry.get? type = some table := by
  rw [contains, List.any_eq_true, ← Option.isSome_iff_exists, get?, List.find?_isSome]

end Registry

/-! ## Dependencies -/

namespace Catalogue

/-- The type can be registered. -/
def Knows (catalogue : Catalogue) (type : TypeRef) : Prop :=
  (catalogue.find? type).isSome

/-- A field of the one type leads to the other one. -/
def Depends (catalogue : Catalogue) (type other : TypeRef) : Prop :=
  catalogue.Knows other ∧
    ∃ beanClass, catalogue.find? type = some beanClass ∧ other ∈ beanClass.dependencies

/-- Dependencies lead from the one type to the other one through types that are all allowed, the
first and the last included. -/
inductive Reaches (catalogue : Catalogue) (allowed : TypeRef → Prop) (start : TypeRef) :
    TypeRef → Prop
  /-- The type itself. -/
  | here (known : catalogue.Knows start) (allows : allowed start) :
      Reaches catalogue allowed start start
  /-- One dependency more. -/
  | onward {type other : TypeRef} (before : Reaches catalogue allowed start type)
      (depends : catalogue.Depends type other) (allows : allowed other) :
      Reaches catalogue allowed start other

namespace Reaches

variable {catalogue : Catalogue} {allowed wider : TypeRef → Prop} {start type other : TypeRef}

/-- The first type of a chain is allowed. -/
theorem allows_start (reaches : catalogue.Reaches allowed start type) : allowed start := by
  induction reaches with
  | here _ allows => exact allows
  | onward _ _ _ ih => exact ih

/-- The first type of a chain is known. -/
theorem knows_start (reaches : catalogue.Reaches allowed start type) : catalogue.Knows start := by
  induction reaches with
  | here known _ => exact known
  | onward _ _ _ ih => exact ih

/-- The last type of a chain is allowed. -/
theorem allows_end (reaches : catalogue.Reaches allowed start type) : allowed type := by
  cases reaches with
  | here _ allows => exact allows
  | onward _ _ allows => exact allows

/-- A chain through allowed types goes through any that are allowed more widely. -/
theorem mono (reaches : catalogue.Reaches allowed start type)
    (widens : ∀ type, allowed type → wider type) : catalogue.Reaches wider start type := by
  induction reaches with
  | here known allows => exact .here known (widens _ allows)
  | onward _ depends allows ih => exact .onward ih depends (widens _ allows)

/-- A dependency can be put in front. -/
theorem behind (reaches : catalogue.Reaches allowed other type)
    (depends : catalogue.Depends start other) (known : catalogue.Knows start)
    (allows : allowed start) : catalogue.Reaches allowed start type := by
  induction reaches with
  | here _ allowsOther => exact .onward (.here known allows) depends allowsOther
  | onward _ step allowsNext ih => exact .onward ih step allowsNext

/-- A chain either never comes to a type, or ends at it, or goes on from one of its dependencies
without coming back to it. -/
theorem around (reaches : catalogue.Reaches allowed start type) (avoided : TypeRef) :
    type = avoided ∨ catalogue.Reaches (fun type => allowed type ∧ type ≠ avoided) start type ∨
      ∃ next, catalogue.Depends avoided next ∧
        catalogue.Reaches (fun type => allowed type ∧ type ≠ avoided) next type := by
  induction reaches with
  | here known allows =>
    by_cases same : start = avoided
    · exact .inl same
    · exact .inr (.inl (.here known ⟨allows, same⟩))
  | @onward middle last before depends allows ih =>
    by_cases same : last = avoided
    · exact .inl same
    obtain rfl | direct | ⟨next, first, behind⟩ := ih
    · exact .inr (.inr ⟨last, depends, .here depends.1 ⟨allows, same⟩⟩)
    · exact .inr (.inl (.onward direct depends ⟨allows, same⟩))
    · exact .inr (.inr ⟨next, first, .onward behind depends ⟨allows, same⟩⟩)

end Reaches

end Catalogue

namespace Registry

/-- The type is not registered. -/
def Lacks (registry : Registry) (type : TypeRef) : Prop :=
  registry.contains type = false

/-- With a type, the registry knows the types that its fields lead to. -/
def IsClosed (registry : Registry) (catalogue : Catalogue) : Prop :=
  ∀ type other, registry.contains type = true → catalogue.Depends type other →
    registry.contains other = true

/-- After an insertion the registry lacks what it lacked, but for the type of the table. -/
theorem lacks_insert_iff (registry : Registry) (table : TypeMeta) (type : TypeRef) :
    (registry.insert table).Lacks type ↔ registry.Lacks type ∧ type ≠ table.type := by
  rw [Lacks, contains_insert, Bool.or_eq_false_iff, beq_eq_false_iff_ne, and_comm, Lacks]
  exact and_congr_right fun _ => ne_comm

/-! ## The types that are new -/

/-- The class that is found for a type is that of the type. -/
theorem type_of_find? {catalogue : Catalogue} {type : TypeRef} {beanClass : BeanClass}
    (found : catalogue.find? type = some beanClass) : beanClass.table.type = type := by
  simpa [BeanClass.type] using List.find?_some found

/-- Registering one type first and then its dependencies leaves nothing out: a chain of unknown
types goes on behind the type as a chain of types that are still unknown. -/
theorem reaches_insert_iff {catalogue : Catalogue} {registry : Registry} {type : TypeRef}
    {beanClass : BeanClass} (absent : registry.Lacks type)
    (found : catalogue.find? type = some beanClass) (pending : List TypeRef) (last : TypeRef) :
    (last = type ∨ ∃ start ∈ beanClass.dependencies ++ pending,
        catalogue.Reaches (registry.insert beanClass.table).Lacks start last) ↔
      ∃ start ∈ type :: pending, catalogue.Reaches registry.Lacks start last := by
  have same : beanClass.table.type = type := type_of_find? found
  have known : catalogue.Knows type := by rw [Catalogue.Knows, found]; rfl
  have unknown : ∀ other, (registry.insert beanClass.table).Lacks other ↔
      registry.Lacks other ∧ other ≠ type := by
    intro other
    rw [lacks_insert_iff, same]
  constructor
  · rintro (rfl | ⟨start, among, reaches⟩)
    · exact ⟨_, List.mem_cons_self, .here known absent⟩
    · have before := reaches.mono fun other lacks => ((unknown other).1 lacks).1
      obtain dependency | waiting := List.mem_append.1 among
      · exact ⟨type, List.mem_cons_self,
          before.behind ⟨before.knows_start, beanClass, found, dependency⟩ known absent⟩
      · exact ⟨start, List.mem_cons_of_mem _ waiting, before⟩
  · rintro ⟨start, among, reaches⟩
    -- A chain may come back to the type; only what is behind its last visit counts.
    obtain rfl | direct | ⟨next, depends, behind⟩ := reaches.around type
    · exact .inl rfl
    · have after := direct.mono fun other lacks => (unknown other).2 lacks
      obtain rfl | waiting := List.mem_cons.1 among
      · exact absurd rfl direct.allows_start.2
      · exact .inr ⟨start, List.mem_append_right _ waiting, after⟩
    · obtain ⟨-, other, foundAgain, dependency⟩ := depends
      obtain rfl : beanClass = other := Option.some.inj (found.symm.trans foundAgain)
      exact .inr ⟨next, List.mem_append_left _ dependency,
        behind.mono fun other lacks => (unknown other).2 lacks⟩

/-! ## One registration after the other -/

/-- A row of types that are to be registered in order takes the one registry to the other. -/
inductive Registers (catalogue : Catalogue) : Registry → List TypeRef → Registry → Prop
  /-- There is nothing to be registered. -/
  | done (registry : Registry) : Registers catalogue registry [] registry
  /-- A type that is registered is passed over. -/
  | present {registry after : Registry} {type : TypeRef} {pending : List TypeRef}
      (contained : registry.contains type = true)
      (rest : Registers catalogue registry pending after) :
      Registers catalogue registry (type :: pending) after
  /-- A type that cannot be registered is passed over. -/
  | unknown {registry after : Registry} {type : TypeRef} {pending : List TypeRef}
      (absent : registry.Lacks type) (missing : catalogue.find? type = none)
      (rest : Registers catalogue registry pending after) :
      Registers catalogue registry (type :: pending) after
  /-- A new type is registered, and the types that its fields lead to are put in front. -/
  | first {registry after : Registry} {type : TypeRef} {pending : List TypeRef}
      {beanClass : BeanClass} (absent : registry.Lacks type)
      (found : catalogue.find? type = some beanClass)
      (rest : Registers catalogue (registry.insert beanClass.table)
        (beanClass.dependencies ++ pending) after) :
      Registers catalogue registry (type :: pending) after

/-- Every row of types is registered in that way. -/
theorem registers (catalogue : Catalogue) (registry : Registry) (pending : List TypeRef) :
    Registers catalogue registry pending (registerAll catalogue registry pending).1 := by
  induction registry, pending using registerAll.induct catalogue with
  | case1 registry =>
    rw [registerAll]
    exact .done registry
  | case2 registry type pending contained ih =>
    rw [registerAll, dif_pos contained]
    exact .present contained ih
  | case3 registry type pending lacking missing ih =>
    rw [registerAll, dif_neg lacking]
    split
    · exact .unknown (Bool.eq_false_iff.2 lacking) missing ih
    · next beanClass found =>
      rw [missing] at found
      cases found
  | case4 registry type pending lacking beanClass found _ _ _ _ ih =>
    rw [registerAll, dif_neg lacking]
    split
    · next missing =>
      rw [found] at missing
      cases missing
    · next other foundOther =>
      obtain rfl : beanClass = other := Option.some.inj (found.symm.trans foundOther)
      exact .first (Bool.eq_false_iff.2 lacking) found ih

namespace Registers

variable {catalogue : Catalogue} {registry after : Registry} {pending : List TypeRef}
  {type : TypeRef}

/-- What is registered after types have been registered in order. -/
theorem contains_iff (registers : Registers catalogue registry pending after) (type : TypeRef) :
    after.contains type = true ↔ registry.contains type = true ∨
      ∃ start ∈ pending, catalogue.Reaches registry.Lacks start type := by
  induction registers with
  | done registry => simp
  | @present registry _ first pending contained _ ih =>
    have nothing : ¬ catalogue.Reaches registry.Lacks first type := by
      intro reaches
      have absent : registry.contains first = false := reaches.allows_start
      rw [contained] at absent
      cases absent
    rw [ih]
    simp [nothing]
  | @unknown registry _ first pending _ missing _ ih =>
    have nothing : ¬ catalogue.Reaches registry.Lacks first type := by
      intro reaches
      have known : (catalogue.find? first).isSome = true := reaches.knows_start
      rw [missing] at known
      cases known
    rw [ih]
    simp [nothing]
  | @first registry _ first pending beanClass absent found _ ih =>
    have same : beanClass.table.type = first := type_of_find? found
    rw [ih, ← reaches_insert_iff absent found, contains_insert, Bool.or_eq_true, beq_iff_eq, same,
      eq_comm (a := first), or_assoc, or_left_comm]

/-- A table that is there is left as it is. -/
theorem get?_of_contains (registers : Registers catalogue registry pending after)
    (present : registry.contains type = true) : after.get? type = registry.get? type := by
  induction registers with
  | done registry => rfl
  | present _ _ ih => exact ih present
  | unknown _ _ _ ih => exact ih present
  | @first registry _ first pending beanClass absent found _ ih =>
    have different : beanClass.table.type ≠ type := by
      rw [type_of_find? found]
      rintro rfl
      rw [Lacks, present] at absent
      cases absent
    have still : (registry.insert beanClass.table).contains type = true := by
      rw [contains_insert, present, Bool.or_true]
    rw [ih still, get?_insert, if_neg different]

/-- A type that is new has the table of its class. -/
theorem get?_of_lacks (registers : Registers catalogue registry pending after)
    (absent : registry.Lacks type) (registered : after.contains type = true) :
    after.get? type = (catalogue.find? type).map (·.table) := by
  induction registers with
  | done registry =>
    rw [Lacks, registered] at absent
    cases absent
  | present _ _ ih => exact ih absent registered
  | unknown _ _ _ ih => exact ih absent registered
  | @first registry _ first pending beanClass _ found rest ih =>
    have same : beanClass.table.type = first := type_of_find? found
    by_cases here : type = first
    · subst here
      have inserted : (registry.insert beanClass.table).contains type = true := by
        rw [contains_insert, same, beq_self_eq_true, Bool.true_or]
      rw [rest.get?_of_contains inserted, get?_insert, if_pos same, found]
      rfl
    · have still : (registry.insert beanClass.table).Lacks type :=
        (lacks_insert_iff _ _ _).2 ⟨absent, fun other => here (other.trans same)⟩
      exact ih still registered

/-- What every insertion keeps is kept by a registration. -/
theorem keeps {Kept : Registry → Prop} (registers : Registers catalogue registry pending after)
    (insert : ∀ registry table, Kept registry → Kept (registry.insert table))
    (kept : Kept registry) : Kept after := by
  induction registers with
  | done registry => exact kept
  | present _ _ ih => exact ih kept
  | unknown _ _ _ ih => exact ih kept
  | first _ _ _ ih => exact ih (insert _ _ kept)

end Registers

/-! ## Registration goes no deeper than what is missing -/

/-- Registers a type, and behind it each type that its fields lead to, going at most so deep. It
gives nothing if it has to go deeper. -/
def registerWithin (catalogue : Catalogue) :
    (depth : Nat) → (registry : Registry) → (type : TypeRef) → Option Registry
  | 0, _, _ => none
  | depth + 1, registry, type =>
    if registry.contains type then some registry
    else
      match catalogue.find? type with
      | none => some registry
      | some beanClass =>
        beanClass.dependencies.foldlM (registerWithin catalogue depth)
          (registry.insert beanClass.table)

/-- What a fold gives is given with any step that gives at least as much. -/
theorem foldlM_eq_some_of_imp {α β : Type} {step wider : β → α → Option β}
    (widens : ∀ state item next, step state item = some next → wider state item = some next)
    (items : List α) (state last : β) (folded : items.foldlM step state = some last) :
    items.foldlM wider state = some last := by
  induction items generalizing state with
  | nil => exact folded
  | cons item rest ih =>
    rw [List.foldlM_cons] at folded ⊢
    obtain ⟨next, taken, further⟩ := Option.bind_eq_some_iff.1 folded
    exact Option.bind_eq_some_iff.2 ⟨next, widens _ _ _ taken, ih _ further⟩

/-- What is registered within a depth is registered within a larger one. -/
theorem registerWithin_succ (catalogue : Catalogue) (depth : Nat) (registry : Registry)
    (type : TypeRef) (after : Registry)
    (registered : registerWithin catalogue depth registry type = some after) :
    registerWithin catalogue (depth + 1) registry type = some after := by
  induction depth generalizing registry type after with
  | zero => cases registered
  | succ depth ih =>
    rw [registerWithin] at registered ⊢
    split
    · next present => rwa [if_pos present] at registered
    · next absent =>
      rw [if_neg absent] at registered
      cases found : catalogue.find? type with
      | none => rwa [found] at registered
      | some beanClass =>
        rw [found] at registered
        exact foldlM_eq_some_of_imp ih _ _ _ registered

/-- Types registered one after the other, each with all that is behind it, are registered as from
one row, if the depth exceeds the number of types that are missing. -/
theorem Registers.foldlM_registerWithin {catalogue : Catalogue} {registry after : Registry}
    {pending : List TypeRef} (registers : Registers catalogue registry pending after) {depth : Nat}
    (deep : (registry.missing catalogue).length < depth) :
    pending.foldlM (registerWithin catalogue depth) registry = some after := by
  obtain ⟨depth, rfl⟩ : ∃ less, depth = less + 1 := ⟨depth - 1, by omega⟩
  induction registers generalizing depth with
  | done registry => rfl
  | present contained _ ih =>
    rw [← ih depth deep, List.foldlM_cons, registerWithin, if_pos contained]
    rfl
  | unknown absent missing _ ih =>
    rw [← ih depth deep, List.foldlM_cons, registerWithin, if_neg (Bool.eq_false_iff.1 absent),
      missing]
    rfl
  | @first registry after first pending beanClass absent found _ ih =>
    -- With the type there is one type less that is missing, so its dependencies need one level
    -- less. What is pending behind it stays on the level of the type, where nothing is lost.
    have shrinks := length_missing_insert_lt absent found
    obtain ⟨less, rfl⟩ : ∃ less, depth = less + 1 := ⟨depth - 1, by omega⟩
    have row := ih less (by omega)
    rw [List.foldlM_append] at row
    obtain ⟨middle, below, behind⟩ := Option.bind_eq_some_iff.1 row
    have wider := foldlM_eq_some_of_imp (registerWithin_succ catalogue (less + 1)) _ _ _ behind
    rw [List.foldlM_cons, registerWithin, if_neg (Bool.eq_false_iff.1 absent), found]
    exact Option.bind_eq_some_iff.2 ⟨middle, below, wider⟩

/-! ## Registration as a whole -/

/-- Registering a type registers the row of that type alone. -/
theorem registers_register (catalogue : Catalogue) (registry : Registry) (type : TypeRef) :
    Registers catalogue registry [type] (register catalogue registry type).1 :=
  registers catalogue registry [type]

/-- Besides the types of before there are those that dependencies reach through unknown types. -/
theorem contains_register_iff (catalogue : Catalogue) (registry : Registry)
    (type other : TypeRef) : (register catalogue registry type).1.contains other = true ↔
      registry.contains other = true ∨ catalogue.Reaches registry.Lacks type other := by
  rw [(registers_register catalogue registry type).contains_iff]
  simp only [List.mem_singleton, exists_eq_left]

/-- A closed registry stays closed. -/
theorem IsClosed.register {catalogue : Catalogue} {registry : Registry}
    (closed : registry.IsClosed catalogue) (type : TypeRef) :
    (register catalogue registry type).1.IsClosed catalogue := by
  intro one other registered depends
  rw [contains_register_iff] at registered ⊢
  obtain before | reaches := registered
  · exact .inl (closed one other before depends)
  · cases there : registry.contains other with
    | true => exact .inl rfl
    | false => exact .inr (.onward reaches depends there)

/-- Where the registry is closed and a type is registered, all that the type leads to is. -/
theorem IsClosed.contains_of_reaches {catalogue : Catalogue} {registry : Registry}
    (closed : registry.IsClosed catalogue) {type other : TypeRef} {allowed : TypeRef → Prop}
    (registered : registry.contains type = true)
    (reaches : catalogue.Reaches allowed type other) : registry.contains other = true := by
  induction reaches with
  | here _ _ => exact registered
  | onward _ depends _ ih => exact closed _ _ ih depends

/-- A type that can be registered is registered afterwards. -/
theorem contains_register_self {catalogue : Catalogue} {type : TypeRef}
    (known : catalogue.Knows type) (registry : Registry) :
    (register catalogue registry type).1.contains type = true := by
  rw [contains_register_iff]
  cases there : registry.contains type with
  | true => exact .inl rfl
  | false => exact .inr (.here known there)

/-- Registering a type comes to an end and registers what it is to register: besides the types of
before there are those that dependencies reach through types that were all unknown, no table of
before is changed, each new type has the table of its class, and a closed registry stays closed and
has all that the type leads to. -/
theorem register_exact (catalogue : Catalogue) (registry : Registry) (type : TypeRef) :
    (∀ depth, (registry.missing catalogue).length < depth →
      registerWithin catalogue depth registry type = some (register catalogue registry type).1) ∧
    (∀ other, (register catalogue registry type).1.contains other = true ↔
      registry.contains other = true ∨ catalogue.Reaches registry.Lacks type other) ∧
    (∀ other, registry.contains other = true →
      (register catalogue registry type).1.get? other = registry.get? other) ∧
    (∀ other, catalogue.Reaches registry.Lacks type other →
      (register catalogue registry type).1.get? other =
        (catalogue.find? other).map (·.table)) ∧
    (registry.IsClosed catalogue →
      (register catalogue registry type).1.IsClosed catalogue ∧
      ∀ other, catalogue.Reaches (fun _ => True) type other →
        (register catalogue registry type).1.contains other = true) := by
  have registers := registers_register catalogue registry type
  have reached := contains_register_iff catalogue registry type
  refine ⟨fun depth deep => ?_, reached, fun other present => registers.get?_of_contains present,
    fun other reaches => ?_, fun closed => ⟨closed.register type, fun other reaches => ?_⟩⟩
  · have folded := registers.foldlM_registerWithin deep
    rw [List.foldlM_cons] at folded
    obtain ⟨after, registered, nothingLeft⟩ := Option.bind_eq_some_iff.1 folded
    exact registered.trans nothingLeft
  · exact registers.get?_of_lacks reaches.allows_end ((reached other).2 (.inr reaches))
  · have registered := contains_register_self reaches.knows_start registry
    exact (closed.register type).contains_of_reaches registered reaches

/-! ## Types in a circle -/

namespace Toybox

/-- A person has a pet and knows persons, a pet has an owner and a toy, and a toy has a maker. -/
def person : TypeRef := { path := "toybox::Person" }

@[inherit_doc person]
def pet : TypeRef := { path := "toybox::Pet" }

@[inherit_doc person]
def toy : TypeRef := { path := "toybox::Toy" }

@[inherit_doc person]
def maker : TypeRef := { path := "toybox::Maker" }

/-- The four types with what their fields lead to. -/
def catalogue : Catalogue where
  classes :=
    [⟨{ type := person }, [pet, person]⟩, ⟨{ type := pet }, [person, toy]⟩,
      ⟨{ type := toy }, [maker]⟩, ⟨{ type := maker }, []⟩]

/-- The registry in which one of the types is registered. -/
def only (type : TypeRef) : Registry :=
  empty.insert { type := type }

end Toybox

open Toybox in
/-- A person leads to itself and back to itself through its pet, and is registered all the same
with the pet, the toy and the maker. Where the toy is known before, its maker is not looked at. -/
theorem register_circle :
    ((only maker).IsClosed catalogue ∧
      catalogue.Reaches (fun _ => True) person toy ∧
      (register catalogue (only maker) person).1.contains toy = true) ∧
    (register catalogue (only toy) person).1.contains pet = true ∧
    (register catalogue (only toy) person).1.contains maker = false := by
  have closed : (only maker).IsClosed catalogue := by
    intro type other registered depends
    rw [only, contains_insert, Bool.or_eq_true, beq_iff_eq] at registered
    obtain rfl : maker = type := registered.resolve_right Bool.false_ne_true
    obtain ⟨-, beanClass, found, dependency⟩ := depends
    obtain rfl : ⟨{ type := maker }, []⟩ = beanClass := Option.some.inj found
    cases dependency
  have toPet : catalogue.Reaches (fun _ => True) person pet :=
    .onward (.here rfl trivial) ⟨rfl, _, rfl, List.mem_cons_self⟩ trivial
  have toToy : catalogue.Reaches (fun _ => True) person toy :=
    .onward toPet ⟨rfl, _, rfl, List.mem_cons_of_mem _ List.mem_cons_self⟩ trivial
  have run := (register_exact catalogue (only toy) person).1 5 (by decide)
  have value : registerWithin catalogue 5 (only toy) person =
      some (((only toy).insert { type := person }).insert { type := pet }) := rfl
  have registered := Option.some.inj (run.symm.trans value)
  refine ⟨⟨closed, toToy, ?_⟩, ?_, ?_⟩
  · exact ((register_exact catalogue (only maker) person).2.2.2.2 closed).2 toy toToy
  · rw [registered]; decide
  · rw [registered]; decide

end Registry

end PropertyGraph
