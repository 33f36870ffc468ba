import PropertyGraph.Proofs.Access.Fields
import PropertyGraph.Proofs.Graph.Patches

/-!
# Accesses that are settled

What an access does is settled by the cells that it looks at. It is settled on two worlds if it
gives one value on both and changes neither, or fails on both with one error and leaves all that was
there. An access that stores values makes a patch on all worlds that match on some cells, and has
one outcome there. Both are proved of a sequence by proving them of the parts. The two invocations
of an access to a field are settled on worlds with the same guards, a read if the field holds the
same in both.
-/
namespace PropertyGraph

/-- The access gives one value on both worlds and changes neither, or it fails on both with one
error and leaves all that was there. -/
def Access.SettledOn {α : Type} (access : Access α) (world later : World) : Prop :=
  (∃ value, access.runOn world = (.ok value, world) ∧ access.runOn later = (.ok value, later)) ∨
    ∃ error, access.FailsWith world error ∧ access.FailsWith later error

namespace Access.SettledOn

variable {α β : Type} {world later : World}

/-- A value that is given is settled. -/
theorem pure (value : α) (world later : World) :
    SettledOn (pure value : Access α) world later :=
  .inl ⟨value, rfl, rfl⟩

/-- A failure at once is settled. -/
theorem throw (error : AccessError) (world later : World) :
    SettledOn (throw error : Access α) world later :=
  .inr ⟨error, .throw error world, .throw error later⟩

/-- A sequence of settled parts is settled. -/
theorem bind {first : Access α} {next : α → Access β} (settled : SettledOn first world later)
    (further : ∀ value, first.runOn world = (.ok value, world) →
      SettledOn (next value) world later) :
    SettledOn (first >>= next) world later := by
  rcases settled with ⟨value, here, there⟩ | ⟨error, here, there⟩
  · rcases further value here with ⟨result, here', there'⟩ | ⟨error, here', there'⟩
    · exact .inl ⟨result, (runOn_bind_of_ok here next).trans here',
        (runOn_bind_of_ok there next).trans there'⟩
    · exact .inr ⟨error, .bind_of_ok here (.refl _ _) here', .bind_of_ok there (.refl _ _) there'⟩
  · exact .inr ⟨error, here.bind next, there.bind next⟩

/-- A settled access has the same outcome on both worlds. -/
theorem outcome_eq {access : Access α} (settled : SettledOn access world later) :
    (access.runOn later).1 = (access.runOn world).1 := by
  rcases settled with ⟨value, here, there⟩ | ⟨error, ⟨_, here, -⟩, ⟨_, there, -⟩⟩
  · rw [here, there]
  · rw [here, there]

end Access.SettledOn

/-- On every world that matches the world on the cells, the access has the outcome and makes the
patch. -/
def Access.PatchesOn {α : Type} (access : Access α) (world : World)
    (cells : BeanRef → String → Prop) (outcome : Except AccessError α) (patch : Patch) : Prop :=
  ∀ later, world.MatchesOn cells later →
    ∃ after, access.runOn later = (outcome, after) ∧ later.PatchedTo patch after

namespace Access.PatchesOn

variable {α β : Type} {world : World} {cells : BeanRef → String → Prop} {patch further : Patch}

/-- A given outcome is reached everywhere and patches nothing. -/
theorem mk_pure (outcome : Except AccessError α) (world : World)
    (cells : BeanRef → String → Prop) :
    PatchesOn (ExceptT.mk (pure outcome)) world cells outcome .empty :=
  fun later _ => ⟨later, rfl, .of_evolves (.refl _ _)⟩

/-- An access that is settled by the cells stores nothing. -/
theorem of_settled {access : Access α}
    (settled : ∀ later, world.MatchesOn cells later → access.SettledOn world later) :
    access.PatchesOn world cells (access.runOn world).1 .empty := by
  intro later agrees
  rcases settled later agrees with ⟨value, here, there⟩ |
    ⟨error, ⟨_, here, -⟩, ⟨after, there, evolves⟩⟩
  · rw [here]
    exact ⟨later, there, .of_evolves (.refl _ _)⟩
  · rw [here]
    exact ⟨after, there, .of_evolves evolves⟩

/-- Behind an access that stores values no cell is known to match any more. -/
theorem bind {first : Access α} {next : α → Access β} {value : α} {outcome : Except AccessError β}
    (done : first.PatchesOn world cells (.ok value) patch)
    (onward : (next value).PatchesOn world noCell outcome further) :
    (first >>= next).PatchesOn world cells outcome (patch.andThen further) := by
  intro later agrees
  obtain ⟨middle, run, patched⟩ := done later agrees
  obtain ⟨after, run', patched'⟩ := onward middle (patched.matchesOn agrees)
  exact ⟨after, (runOn_bind_of_ok run next).trans run', patched.trans patched'⟩

/-- A sequence whose first part fails makes the patch of that part. -/
theorem bind_error {first : Access α} {error : AccessError}
    (failed : first.PatchesOn world cells (.error error) patch) (next : α → Access β) :
    (first >>= next).PatchesOn world cells (.error error) patch := by
  intro later agrees
  obtain ⟨after, run, patched⟩ := failed later agrees
  exact ⟨after, runOn_bind_of_error run next, patched⟩

end Access.PatchesOn

namespace Accessor

variable {accessor : Accessor} {request : WriteRequest} {world later : World} {ref : BeanRef}
  {info : PropertyInfo} {field : String} {type : FieldType}
  {cells : BeanRef → String → Prop}

/-- A read is settled by the cell that the property shows. -/
theorem read_settled (shows : info.ShowsField ref.type field type)
    (readable : info.isReadable = true) (has : world.Has ref)
    (agrees : world.MatchesOn cells later) (among : cells ref field) (walked : List Segment) :
    (Access.invoke walked ref (·.read ref info)).SettledOn world later := by
  have here := runOn_read shows readable has walked
  have there := runOn_read shows readable (agrees.has ref has) walked
  rw [World.isHeldExclusively_of_guards agrees.guards, agrees.shown has among] at there
  by_cases held : world.isHeldExclusively ref
  · rw [if_pos held] at here there
    exact .inr ⟨_, ⟨world, here, .refl _ _⟩, ⟨later, there, .refl _ _⟩⟩
  · rw [if_neg held] at here there
    exact .inl ⟨_, here, there⟩

/-- Without growth, what is found behind a property is settled by its cell. -/
theorem enter_settled (accessor : Accessor) (off : request.options.growNested = false)
    (shows : info.ShowsField ref.type field type) (readable : info.isReadable = true)
    (has : world.Has ref) (agrees : world.MatchesOn cells later) (among : cells ref field)
    (walked : List Segment) :
    (accessor.enter request walked ref info).SettledOn world later := by
  refine (read_settled shows readable has agrees among walked).bind fun child _ => ?_
  by_cases absent : child.isAbsent
  · simp only [absent, ↓reduceIte, growIfAllowed, off, Bool.false_eq_true, Access.throw_bind]
    exact .throw _ _ _
  · simp only [absent, Bool.false_eq_true, ↓reduceIte]
    exact .pure _ _ _

/-- Whether a property takes a value is settled by the guards, and so is what it then holds. -/
theorem putBack_patches (isField : info.IsField ref.type field type) (has : world.Has ref)
    (walked : List Segment) (value : Value) :
    (∃ content, (putBack walked ref info value).PatchesOn world noCell (.ok ())
      (.single ref field ⟨type, content⟩)) ∨
    ∃ error, (putBack walked ref info value).PatchesOn world noCell (.error error) .empty := by
  by_cases writable : info.isWritable
  case neg =>
    refine .inr ⟨readOnly walked ref.type, ?_⟩
    rw [putBack, if_neg writable]
    exact .mk_pure _ _ _
  have isHeld {later : World} (agrees : world.MatchesOn noCell later) :
      later.isHeld ref = world.isHeld ref := by
    rw [World.isHeld, World.isHeld, agrees.guards]
  cases held : world.isHeld ref with
  | true =>
    refine .inr ⟨.invocationFailed (Segment.render walked) ref.type (.borrowed ref.type.path),
      fun later agrees => ⟨later, ?_, .of_evolves (.refl _ _)⟩⟩
    simp [putBack, writable, put, World.write, isHeld agrees, held]
  | false =>
    cases took : type.ofValue value with
    | ok content =>
      refine .inl ⟨content, fun later agrees => ⟨_, ?_, .of_store (agrees.has ref has) _ _⟩⟩
      exact runOn_putBack_of_isField isField (agrees.has ref has) writable
        ((isHeld agrees).trans held) took walked
    | error cause =>
      refine .inr ⟨.invocationFailed (Segment.render walked) ref.type (.value cause),
        fun later agrees => ⟨later, ?_, .of_evolves (.refl _ _)⟩⟩
      have sameType := (agrees.has ref has).bean_type
      obtain ⟨setter, isSetter⟩ := Option.isSome_iff_exists.1 writable
      have refused : setter.invoke (later.bean ref) value =
          (.error (.value cause), later.bean ref) := by
        rw [isField.takes setter isSetter _ _ sameType]
        simp [Setter.invoke, Setter.ofField, sameType, took]
      simp [putBack, writable, put, World.write, isHeld agrees, held, PropertyInfo.write, isSetter,
        refused, World.putBean_bean]

end Accessor

end PropertyGraph
