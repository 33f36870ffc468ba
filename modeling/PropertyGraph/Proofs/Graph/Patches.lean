import PropertyGraph.Proofs.Graph.Cells

/-!
# Worlds that match, and patches

A later world matches a world on some cells if it has the same guards, all beans of the world, and
the same contents in those cells. A patch tells new contents for some cells; it is what an access
that stores values does to the beans that are there, wherever it is run. A patch that leaves the
cells that are only read as they were tells of these what they held.
-/
namespace PropertyGraph

/-- The later world has the guards and the beans of the world, and the same contents in some of
their cells. -/
structure World.MatchesOn (world : World) (cells : BeanRef → String → Prop) (later : World) :
    Prop where
  guards : later.guards = world.guards
  has : ∀ ref, world.Has ref → later.Has ref
  cell : ∀ ref field, world.Has ref → cells ref field →
    later.cell? ref field = world.cell? ref field

namespace World.MatchesOn

variable {world middle later : World} {cells fewer : BeanRef → String → Prop}

/-- A world matches itself. -/
theorem refl (world : World) (cells : BeanRef → String → Prop) : world.MatchesOn cells world :=
  ⟨rfl, fun _ has => has, fun _ _ _ _ => rfl⟩

/-- Worlds that match on some cells match on fewer. -/
theorem mono (agrees : world.MatchesOn cells later)
    (within : ∀ ref field, fewer ref field → cells ref field) : world.MatchesOn fewer later :=
  ⟨agrees.guards, agrees.has, fun ref field has among =>
    agrees.cell ref field has (within ref field among)⟩

/-- A world that matches goes on to match while its beans stay as they are. -/
theorem evolves (agrees : world.MatchesOn cells middle) (evolves : middle.EvolvesTo [] later) :
    world.MatchesOn cells later where
  guards := evolves.guards.trans agrees.guards
  has ref has := evolves.has ref (agrees.has ref has)
  cell ref field has among :=
    (evolves.cell? (agrees.has ref has) (by simp) field).trans (agrees.cell ref field has among)

/-- A cell on which the worlds match shows the same in both. -/
theorem shown (agrees : world.MatchesOn cells later) {ref : BeanRef} {field : String}
    (has : world.Has ref) (among : cells ref field) :
    later.shown ref field = world.shown ref field := by
  rw [World.shown_eq, World.shown_eq, agrees.cell ref field has among]

end World.MatchesOn

/-- No cell. Worlds that match on it have the same guards, and the beans. -/
def noCell : BeanRef → String → Prop :=
  fun _ _ => False

/-- New contents for some cells. -/
abbrev Patch := BeanRef → String → Option Field

namespace Patch

/-- No cell gets a new content. -/
def empty : Patch := fun _ _ => none

/-- One cell gets a new content. -/
def single (ref : BeanRef) (field : String) (content : Field) : Patch :=
  fun other name => if other = ref ∧ name = field then some content else none

/-- One patch after another. -/
def andThen (first second : Patch) : Patch :=
  fun ref field => (second ref field).or (first ref field)

/-- The empty patch has no part in a sequence. -/
@[simp]
theorem empty_andThen (patch : Patch) : empty.andThen patch = patch := by
  funext ref field
  simp [andThen, empty]

/-- A patch of one cell tells of no other. -/
theorem of_single {ref other : BeanRef} {field name : String} {content told : Field}
    (tells : single ref field content other name = some told) :
    other = ref ∧ name = field ∧ told = content := by
  obtain ⟨⟨sameRef, sameField⟩, same⟩ := Option.ite_none_right_eq_some.1 tells
  exact ⟨sameRef, sameField, (Option.some.inj same).symm⟩

/-- What a sequence tells of a cell, one of its patches tells. -/
theorem of_andThen {first second : Patch} {ref : BeanRef} {field : String} {told : Field}
    (tells : first.andThen second ref field = some told) :
    second ref field = some told ∨ first ref field = some told :=
  (Option.or_eq_some_iff.1 tells).imp_right And.right

/-- What a patch tells is a cell that is written, or one that is read and gets back what it held. -/
def Within (patch : Patch) (world : World) (reads writes : BeanRef → String → Prop) : Prop :=
  ∀ ref field content, patch ref field = some content →
    writes ref field ∨ reads ref field ∧ world.cell? ref field = some content

namespace Within

variable {world : World} {reads writes : BeanRef → String → Prop} {first second : Patch}

/-- The empty patch stays within any cells. -/
theorem empty : Patch.empty.Within world reads writes := by
  intro ref field content told
  cases told

/-- A sequence stays within the cells of its patches. -/
theorem andThen (within : first.Within world reads writes)
    (within' : second.Within world reads writes) :
    (first.andThen second).Within world reads writes :=
  fun ref field content told =>
    (of_andThen told).elim (within' ref field content) (within ref field content)

/-- A cell that is written may get any content. -/
theorem of_writes {ref : BeanRef} {field : String} (isWritten : writes ref field)
    (content : Field) : (Patch.single ref field content).Within world reads writes := by
  intro other name told' told
  obtain ⟨rfl, rfl, -⟩ := of_single told
  exact .inl isWritten

/-- A cell that is read may get back what it held. -/
theorem of_reads {ref : BeanRef} {field : String} {content : Field} (isRead : reads ref field)
    (found : world.cell? ref field = some content) :
    (Patch.single ref field content).Within world reads writes := by
  intro other name told' told
  obtain ⟨rfl, rfl, rfl⟩ := of_single told
  exact .inr ⟨isRead, found⟩

end Within

end Patch

/-- The later world is the world with the new contents of a patch. New beans may have come in. -/
structure World.PatchedTo (world : World) (patch : Patch) (later : World) : Prop where
  guards : later.guards = world.guards
  has : ∀ ref, world.Has ref → later.Has ref
  cell : ∀ ref field, world.Has ref →
    later.cell? ref field = (patch ref field).or (world.cell? ref field)

namespace World.PatchedTo

variable {world middle later : World} {first second : Patch}

/-- Where no bean changes, nothing is patched. -/
theorem of_evolves (evolves : world.EvolvesTo [] later) : world.PatchedTo .empty later :=
  ⟨evolves.guards, evolves.has, fun _ field has => evolves.cell? has (by simp) field⟩

/-- A store patches its cell. -/
theorem of_store {ref : BeanRef} (has : world.Has ref) (field : String) (content : Field) :
    world.PatchedTo (.single ref field content) (world.store ref field content) where
  guards := rfl
  has := (World.EvolvesTo.of_store has field content).has
  cell other name hasOther := by
    rw [World.cell?_store has hasOther, Patch.single]
    by_cases here : other = ref ∧ name = field
    · rw [if_pos here, if_pos here, Option.some_or]
    · rw [if_neg here, if_neg here, Option.none_or]

/-- Patches are made one after the other. -/
theorem trans (toMiddle : world.PatchedTo first middle) (toLater : middle.PatchedTo second later) :
    world.PatchedTo (first.andThen second) later where
  guards := toLater.guards.trans toMiddle.guards
  has ref has := toLater.has ref (toMiddle.has ref has)
  cell ref field has := by
    rw [toLater.cell ref field (toMiddle.has ref has), toMiddle.cell ref field has,
      Patch.andThen, Option.or_assoc]

/-- What is patched still has the guards and the beans. -/
theorem matchesOn {cells : BeanRef → String → Prop} (patched : middle.PatchedTo first later)
    (agrees : world.MatchesOn cells middle) : world.MatchesOn noCell later :=
  ⟨patched.guards.trans agrees.guards, fun ref has => patched.has ref (agrees.has ref has),
    fun _ _ _ none => False.elim none⟩

end World.PatchedTo

end PropertyGraph
