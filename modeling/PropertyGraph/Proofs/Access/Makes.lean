import PropertyGraph.Proofs.Access.Frame

/-!
# Accesses that make beans

What an access adds to a world when it changes nothing that is there: beans in new places, which are
told apart by their places. An access makes beans if it leaves all that is there, whether it fails
or not, and if the beans that it tells of when it succeeds are new ones (`Makes`). It is proved of a
sequence by proving it of the parts: what the second part makes is new to what the first has made.
-/
namespace PropertyGraph

namespace World

/-- The world has become another one in which all that was there is the same, and the beans that
were made are in new places, each in one of its own. -/
structure Gains (world : World) (made : List BeanRef) (later : World) : Prop where
  evolves : world.EvolvesTo [] later
  distinct : made.Nodup
  isNew : ∀ ref ∈ made, world.beans.size ≤ ref.index ∧ later.Has ref

section

variable {world middle later : World} {made further : List BeanRef} {ref : BeanRef}

/-- A bean that is there has its place within the world. -/
theorem Has.lt_size (has : world.Has ref) : ref.index < world.beans.size := by
  obtain ⟨bean, found, -⟩ := has
  exact (Array.getElem?_eq_some_iff.1 found).1

/-- A world in which all that was there is the same has at least as many beans. -/
theorem EvolvesTo.size_le {changed : List BeanRef} (evolves : world.EvolvesTo changed later) :
    world.beans.size ≤ later.beans.size := by
  apply Nat.le_of_not_lt
  intro fewer
  have kept : later.beans.size < later.beans.size := lt_size_of_has evolves.has fewer
  omega

namespace Gains

/-- Nothing is made where nothing beside what is there is told of. -/
theorem of_evolves (evolves : world.EvolvesTo [] later) : world.Gains [] later :=
  ⟨evolves, List.nodup_nil, nofun⟩

/-- A world gains nothing on itself. -/
theorem refl (world : World) : world.Gains [] world :=
  of_evolves (.refl world [])

/-- A bean is added in the place behind all others. -/
theorem of_add (world : World) (bean : Bean) :
    world.Gains [(world.add bean).1] (world.add bean).2 where
  evolves := .of_add world bean
  distinct := by simp
  isNew ref among := by
    obtain rfl := List.mem_singleton.1 among
    exact ⟨Nat.le_refl _, has_add world bean⟩

/-- What is made later is in none of the places of what was made before. -/
theorem trans (first : world.Gains made middle) (second : middle.Gains further later) :
    world.Gains (made ++ further) later where
  evolves := first.evolves.trans second.evolves
  distinct := by
    refine List.nodup_append.2 ⟨first.distinct, second.distinct, ?_⟩
    intro ref among other amongLater same
    have before : ref.index < middle.beans.size := (first.isNew ref among).2.lt_size
    have behind : middle.beans.size ≤ other.index := (second.isNew other amongLater).1
    rw [same] at before
    omega
  isNew ref among := by
    rcases List.mem_append.1 among with among | among
    · obtain ⟨new, has⟩ := first.isNew ref among
      exact ⟨new, second.evolves.has ref has⟩
    · obtain ⟨new, has⟩ := second.isNew ref among
      exact ⟨Nat.le_trans first.evolves.size_le new, has⟩

end Gains

end

end World

/-- Whatever the world is, the access leaves all that is there. If it succeeds, the beans that it
has made are new, and its value and these beans are as told. -/
def Access.Makes {α : Type} (access : Access α) (told : α → List BeanRef → Prop) : Prop :=
  ∀ world : World, world.EvolvesTo [] (access.runOn world).2 ∧
    ∀ value, (access.runOn world).1 = .ok value →
      ∃ made, told value made ∧ world.Gains made (access.runOn world).2

namespace Access.Makes

variable {α β : Type} {told told' : α → List BeanRef → Prop}

/-- Giving a value makes no bean. -/
theorem pure {value : α} (here : told value []) : Makes (pure value) told := by
  intro world
  refine ⟨.refl world [], fun value' same => ?_⟩
  obtain rfl : value = value' := Except.ok.inj same
  exact ⟨[], here, .refl world⟩

/-- Failing at once makes no bean that is told. -/
theorem throw (error : AccessError) : Makes (throw error : Access α) told :=
  fun world => ⟨.refl world [], nofun⟩

/-- A record makes no bean. -/
theorem record (entry : LogRecord) : Makes (Access.record entry) fun _ made => made = [] :=
  fun world => ⟨.of_record world entry, fun _ _ => ⟨[], rfl, .of_evolves (.of_record world entry)⟩⟩

/-- A bean is made where every world gains it. -/
theorem ofWorld {make : World → BeanRef × World}
    (gains : ∀ world : World, world.Gains [(make world).1] (make world).2) :
    Makes (Access.ofWorld make) fun ref made => made = [ref] := by
  intro world
  refine ⟨(gains world).evolves, fun ref same => ?_⟩
  obtain rfl : (make world).1 = ref := Except.ok.inj same
  exact ⟨_, rfl, gains world⟩

/-- What is told of the beans that are made may be told more weakly. -/
theorem mono {access : Access α} (makes : Makes access told)
    (weaker : ∀ value made, told value made → told' value made) : Makes access told' := by
  intro world
  obtain ⟨evolves, tells⟩ := makes world
  refine ⟨evolves, fun value same => ?_⟩
  obtain ⟨made, here, gains⟩ := tells value same
  exact ⟨made, weaker value made here, gains⟩

/-- A sequence makes the beans of its first part and then those of its second. -/
theorem bind {first : Access α} {next : α → Access β} {told'' : β → List BeanRef → Prop}
    (makes : Makes first told)
    (further : ∀ value made, told value made →
      Makes (next value) fun result more => told'' result (made ++ more)) :
    Makes (first >>= next) told'' := by
  intro world
  obtain ⟨evolves, tells⟩ := makes world
  rcases run : first.runOn world with ⟨(error | value), middle⟩
  · rw [run] at evolves
    rw [runOn_bind_of_error run]
    exact ⟨evolves, nofun⟩
  · rw [run] at evolves tells
    obtain ⟨made, here, gains⟩ := tells value rfl
    obtain ⟨evolves', tells'⟩ := further value made here middle
    rw [runOn_bind_of_ok run]
    refine ⟨evolves.trans evolves', fun result same => ?_⟩
    obtain ⟨more, there, gains'⟩ := tells' result same
    exact ⟨made ++ more, there, gains.trans gains'⟩

end Access.Makes

end PropertyGraph
