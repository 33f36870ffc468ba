import PropertyGraph.Batch.Update
import PropertyGraph.Proofs.Batch.Fold
import PropertyGraph.Proofs.Read.Guards

/-!
# Writes and guards

A write invokes getters and setters on its way down a path and setters again on its way up, maybe
of one bean several times, while it still has values in hand that it has read there before. It holds
a guard during none of that but the single invocations. So a write leaves the guards of callers as
they are and never meets one of its own, and so does a batch of writes.
-/
namespace PropertyGraph.Accessor

open Access (HoldsNoGuard)

section

variable {accessor : Accessor} (request : WriteRequest) (walked before : List Segment)
  (segment : Segment) (owner : TypeRef)

/-- A conversion holds no guard. -/
theorem holdsNoGuard_convertRaw (raw : Value) (target : DeclaredType) :
    HoldsNoGuard (accessor.convertRaw walked raw target) := by
  refine .mk_pure fun error failed => ?_
  cases converted : convertTo accessor.converter raw target with
  | ok value => simp [converted] at failed
  | error cause =>
    obtain rfl : _ = error := by simpa [converted] using failed
    rfl

/-- Putting a value back holds no guard. -/
theorem holdsNoGuard_putBack {info : PropertyInfo} (direct : info.IsDirect) (ref : BeanRef)
    (value : Value) : HoldsNoGuard (putBack walked ref info value) := by
  unfold putBack
  split
  · exact .write direct walked ref value
  · exact .throw rfl

variable (direct : accessor.registry.IsDirect)

include direct

/-! ## Making values -/

/-- Making a bean holds no guard. -/
theorem holdsNoGuard_construct (type : TypeRef) :
    HoldsNoGuard (accessor.construct walked owner type) := by
  unfold construct
  split
  · next make found => exact .bind (.ofWorld (direct.makes type make found)) fun _ => .pure _
  · exact .throw rfl

/-- Making an absent value holds no guard. -/
theorem holdsNoGuard_grow (declared : DeclaredType) :
    HoldsNoGuard (accessor.grow walked owner declared) := by
  have recorded (value : Value) (type : DeclaredType) : HoldsNoGuard
      (do
        Access.record (.grown (Segment.render walked) type)
        return if declared.isOptional then value.optSome else value : Access Value) :=
    .bind (.record _) fun _ => .pure _
  unfold grow
  dsimp only
  split
  · exact .bind (holdsNoGuard_construct walked owner direct _) fun _ => recorded _ _
  · exact .bind (.pure _) fun _ => recorded _ _
  · exact .bind (.pure _) fun _ => recorded _ _
  · exact .bind (.throw rfl) fun _ => recorded _ _

/-- Making an absent value, where that is allowed, holds no guard. -/
theorem holdsNoGuard_growIfAllowed (declared : DeclaredType) :
    HoldsNoGuard (accessor.growIfAllowed request walked owner declared) := by
  unfold growIfAllowed
  split
  · exact holdsNoGuard_grow walked owner direct declared
  · exact .throw rfl

/-- Making the skipped elements holds no guard. -/
theorem holdsNoGuard_fillers (element : DeclaredType) (count : Nat) :
    HoldsNoGuard (accessor.fillers walked owner element count) := by
  have filled : HoldsNoGuard (accessor.filler walked owner element) := by
    unfold filler
    split
    case h_8 => exact holdsNoGuard_grow walked owner direct element
    all_goals exact .pure _
  induction count with
  | zero => exact .pure _
  | succ count ih => exact .bind filled fun _ => .bind ih fun _ => .pure _

/-- Extending a list holds no guard. -/
theorem holdsNoGuard_extendTo (element : DeclaredType) (index : Nat) (items : List Value) :
    HoldsNoGuard (accessor.extendTo request before segment owner element index items) := by
  unfold extendTo
  dsimp only
  split
  · exact .pure _
  split
  · exact .throw rfl
  split
  · exact .throw rfl
  · exact .bind (.record _) fun _ =>
      .bind (holdsNoGuard_fillers _ owner direct element _) fun _ => .pure _

/-! ## Properties and slots -/

/-- Entering a property holds no guard. -/
theorem holdsNoGuard_enter {info : PropertyInfo} (isDirect : info.IsDirect) (ref : BeanRef) :
    HoldsNoGuard (accessor.enter request walked ref info) := by
  refine .bind (.read isDirect walked ref) fun child => ?_
  split
  · exact .bind (holdsNoGuard_growIfAllowed request walked _ direct _) fun grown =>
      .bind (holdsNoGuard_putBack walked isDirect ref grown) fun _ => .pure _
  · exact .pure _

/-- Writing a name that ends the path holds no guard. -/
theorem holdsNoGuard_writeLast (ref : BeanRef) (label : String) :
    HoldsNoGuard (accessor.writeLast request walked ref label) := by
  unfold writeLast
  split
  · next info names =>
    split
    · exact .bind (holdsNoGuard_convertRaw walked _ _) fun value =>
        .bind (.write (isDirect_of_capability? direct names) walked ref value) fun _ => .pure _
    · exact .throw rfl
  · exact .throw rfl

/-- Writing below a name holds no guard if what is behind it holds none. -/
theorem holdsNoGuard_writeBelow (ref : BeanRef) (label : String) {descend : Descent}
    (holds : ∀ holder declared owner, HoldsNoGuard (descend holder declared owner)) :
    HoldsNoGuard (accessor.writeBelow request walked ref label descend) := by
  unfold writeBelow
  split
  · next info names =>
    have isDirect := isDirect_of_capability? direct names
    split
    · refine .bind (holdsNoGuard_enter request walked direct isDirect ref) fun child =>
        .bind (holds child _ _) fun written => ?_
      split
      · exact .bind (holdsNoGuard_putBack walked isDirect ref _) fun _ => .pure _
      · exact .pure _
    · exact .throw rfl
  · exact .bind (holdsNoGuard_handleCursor _) fun handle =>
      .bind (holds handle.value _ _) fun _ => .pure _
  · exact .throw rfl

/-- Writing into a slot holds no guard if what is behind it holds none. -/
theorem holdsNoGuard_writeSlot (element : DeclaredType) (slot : Value) {descend? : Option Descent}
    (holds : ∀ descend ∈ descend?, ∀ holder declared owner,
      HoldsNoGuard (descend holder declared owner)) :
    HoldsNoGuard (accessor.writeSlot request walked owner element slot descend?) := by
  unfold writeSlot
  split
  · exact .bind (holdsNoGuard_convertRaw walked _ _) fun _ => .pure _
  · next descend =>
    refine .bind ?_ fun slot => .bind (holds descend rfl slot _ _) fun _ => .pure _
    unfold enterSlot
    split
    · exact holdsNoGuard_growIfAllowed request walked owner direct element
    · exact .pure _

/-! ## Rows of segments -/

/-- A segment is written without a guard that stays if what is behind it is. -/
theorem holdsNoGuard_writeStep {descend? : Option Descent}
    (holds : ∀ descend ∈ descend?, ∀ holder declared owner,
      HoldsNoGuard (descend holder declared owner))
    (holder : Value) (declared : DeclaredType) :
    HoldsNoGuard (accessor.writeStep request before segment descend? holder declared owner) := by
  unfold writeStep
  dsimp only
  split
  · split
    · exact holdsNoGuard_writeLast request _ direct _ _
    · next descend => exact holdsNoGuard_writeBelow request _ direct _ _ (holds descend rfl)
  · exact .throw rfl
  · exact .bind (.bind (holdsNoGuard_listIndex _ _ _) fun index =>
      .bind (holdsNoGuard_extendTo request before _ owner direct _ index _) fun items =>
        .bind (holdsNoGuard_writeSlot request _ owner direct _ _ holds) fun _ => .pure _)
      fun _ => .pure _
  · exact .bind (.bind (holdsNoGuard_writeSlot request _ owner direct _ _ holds) fun _ => .pure _)
      fun _ => .pure _
  · exact .throw rfl

/-- A row of segments is written without a guard that stays. By induction on the segments behind the
first; what has been read on the way down is a value, and no guard goes with it. -/
theorem holdsNoGuard_writeInto (later : List Segment) :
    ∀ (before : List Segment) (segment : Segment) (holder : Value) (declared : DeclaredType)
      (owner : TypeRef),
      HoldsNoGuard (accessor.writeInto request before segment later holder declared owner) := by
  induction later with
  | nil =>
    intro before segment holder declared owner
    exact holdsNoGuard_writeStep request before segment owner direct (by simp) holder declared
  | cons next later ih =>
    intro before segment holder declared owner
    refine holdsNoGuard_writeStep request before segment owner direct ?_ holder declared
    rintro _ ⟨⟩
    exact ih (before ++ [segment]) next

/-- A write holds no guard. -/
theorem holdsNoGuard_setWith (options : AccessOptions) (root : BeanRef) (path : PropertyPath)
    (raw : Value) : HoldsNoGuard (accessor.setWith options root path raw) := by
  have writes : HoldsNoGuard (accessor.writePath options root path raw) :=
    .bind (holdsNoGuard_writeInto ⟨raw, options⟩ direct path.later _ _ _ _ _) fun _ => .pure _
  have reads : HoldsNoGuard (accessor.readOld root path) :=
    .tryCatch (.bind (holdsNoGuard_get direct root path) fun _ => .pure _) fun error =>
      .bind (.record _) fun _ => .pure _
  unfold setWith
  split
  · exact .bind reads fun _ => .bind writes fun _ => .pure _
  · exact .bind (.pure none) fun _ => .bind writes fun _ => .pure _

/-- A write at a path that is read from a text holds no guard. -/
theorem holdsNoGuard_setText (root : BeanRef) (text : String) (raw : Value) :
    HoldsNoGuard (accessor.setText root text raw) :=
  .bind (holdsNoGuard_parsePath text) fun path =>
    holdsNoGuard_setWith direct accessor.options root path raw

/-! ## Batches -/

/-- Values are tried one after the other on worlds with the same guards; where there are none, none
of them fails for one. -/
theorem applyEach_holdsNoGuard (options : BatchOptions) (root : BeanRef)
    (entries : List PropertyValue) (world : World) :
    let tried := (accessor.applyEach options root entries).run world
    tried.2.guards = world.guards ∧
      (world.guards = [] → ∀ entry ∈ tried.1, ∀ error, entry.result = .error error →
        error.isBorrowed = false) := by
  induction entries generalizing world with
  | nil => exact ⟨rfl, fun _ entry among => absurd among List.not_mem_nil⟩
  | cons entry entries ih =>
    have holds := holdsNoGuard_setText direct root entry.name entry.value
    obtain ⟨kept, recorded⟩ := accessor.run_applyOne options root entry world
    have left := recorded.guards.trans (holds.guards world)
    obtain ⟨leftOthers, freeOthers⟩ := ih ((accessor.applyOne options root entry).run world).2
    rw [applyEach, run_bind, run_bind]
    refine ⟨leftOthers.trans left, fun none other among error failed => ?_⟩
    rcases List.mem_append.1 among with here | later
    · rw [kept, Option.mem_toList, kept?] at here
      split at here
      · cases here
      · obtain rfl := Option.some.inj here
        exact holds.free world error _ none (Prod.ext failed rfl)
    · exact freeOthers (left.trans none) other later error failed

/-- A batch leaves the guards, and where there are none no entry fails for one. -/
theorem applyBatch_holdsNoGuard (options : BatchOptions) (root : BeanRef) (values : PropertyValues)
    (world : World) :
    let tried := (accessor.applyBatch options root values).run world
    tried.2.guards = world.guards ∧
      (world.guards = [] → ∀ failure ∈ tried.1.failures, failure.error.isBorrowed = false) := by
  obtain ⟨left, free⟩ := applyEach_holdsNoGuard direct options root values.entries world
  refine ⟨left, fun none failure among => ?_⟩
  rw [BatchOutcome.failures, List.mem_filterMap] at among
  obtain ⟨entry, listed, shown⟩ := among
  split at shown
  · cases shown
  · next error failed =>
    obtain rfl := Option.some.inj shown
    exact free none entry listed error failed

end

/-! ## Guards of callers -/

/-- The properties of a layout go straight to its fields. -/
theorem isDirect_of_layout (layout : Layout) : layout.registry.IsDirect where
  info owner name info described := by
    obtain ⟨-, -, rfl⟩ | ⟨-, type, -, rfl⟩ := Layout.property_of_describe? described
    · exact ⟨fun getter found => ⟨_, _, (Option.some.inj found).symm⟩, by simp⟩
    · exact ⟨fun getter found => ⟨_, _, (Option.some.inj found).symm⟩,
        fun setter found => ⟨_, _, _, (Option.some.inj found).symm⟩⟩
  makes type make found world := by
    obtain ⟨-, fields, -, -, rfl⟩ := Layout.constructor?_registry found
    rfl

/-- All guards are those of callers. A path is read under guards just as it is without any, unless a
getter is to be invoked on a bean under an exclusive one; then the read fails there, at the first
such segment. Reading, describing and writing leave the guards as they are, single or in a batch,
and where there are none, none of them fails for a guard. -/
theorem access_under_guards (accessor : Accessor) (direct : accessor.registry.IsDirect)
    (root : BeanRef) (world : World) :
    (∀ path,
      ((∀ before segment ref, ¬ accessor.MeetsGuard world root path before segment ref) →
        let free := (accessor.get root path).runOn (world.withGuards [])
        (accessor.get root path).runOn world = (free.1, free.2.withGuards world.guards)) ∧
      ((∃ before segment ref, accessor.MeetsGuard world root path before segment ref) →
        ∃ before segment ref, accessor.MeetsGuard world root path before segment ref ∧
          (∀ front label other, accessor.MeetsGuard world root path front label other →
            before.length ≤ front.length) ∧
          ((accessor.get root path).runOn world).1 =
            .error (.invocationFailed (Segment.render (before ++ [segment])) ref.type
              (.borrowed ref.type.path)))) ∧
    (∀ path, (accessor.get root path).HoldsNoGuard ∧ (accessor.describe root path).HoldsNoGuard ∧
      ∀ options raw, (accessor.setWith options root path raw).HoldsNoGuard) ∧
    (∀ options values,
      let tried := (accessor.applyBatch options root values).run world
      tried.2.guards = world.guards ∧
        (world.guards = [] → ∀ failure ∈ tried.1.failures, failure.error.isBorrowed = false)) ∧
    ∀ text test, ((accessor.describes root text test).run world).2.guards = world.guards := by
  refine ⟨fun path => ⟨get_passesUnder, fun met => ?_⟩, fun path => ⟨?_, ?_, fun options raw => ?_⟩,
    fun options values => applyBatch_holdsNoGuard direct options root values world,
    fun text test => ?_⟩
  · obtain ⟨before, segment, ref, meets, first⟩ := exists_first_meetsGuard met
    exact ⟨before, segment, ref, meets, first, get_of_meetsGuard meets first⟩
  · exact holdsNoGuard_get direct root path
  · exact holdsNoGuard_describe direct root path
  · exact holdsNoGuard_setWith direct options root path raw
  · have describes := (holdsNoGuard_parsePath text).bind (holdsNoGuard_describe direct root)
    have kept := describes.guards world
    rw [run_describes]
    split <;> simp_all

open Household in
/-- The way to the name of Rex by his owner meets the exclusive guard on her where it comes to her
pets; two shared guards on him are in no one's way. -/
theorem get_pets_under_guards :
    let path : PropertyPath := ⟨.name "owner", [.name "pets", .key "rex" false, .name "name"]⟩
    let guards : List Guard := [⟨2, false⟩, ⟨2, false⟩, ⟨0, true⟩]
    accessor.registry.IsDirect ∧
      accessor.MeetsGuard (world guards) rex path [.name "owner"] (.name "pets") eve ∧
      (∃ before segment ref, accessor.MeetsGuard (world guards) rex path before segment ref ∧
        ((accessor.get rex path).runOn (world guards)).1 =
          .error (.invocationFailed (Segment.render (before ++ [segment])) ref.type
            (.borrowed ref.type.path))) ∧
      ((accessor.get rex path).runOn (world guards)).1 =
        .error (.invocationFailed "owner.pets" person (.borrowed "household::Person")) ∧
      ((accessor.setWith { extractOldValue := true } rex path (.text "Max")).runOn
        (world [])).2.guards = [] := by
  intro path guards
  have direct : accessor.registry.IsDirect := isDirect_of_layout layout
  have meets : accessor.MeetsGuard (world guards) rex path [.name "owner"] (.name "pets") eve :=
    ⟨⟨_, rfl⟩, ⟨_, _, .step [] (.name "owner") (.root rex) _ _ _ .root rfl rfl, rfl, rfl, "pets", _,
      rfl, rfl, rfl⟩, rfl⟩
  obtain ⟨reads, -⟩ := access_under_guards accessor direct rex (world guards)
  obtain ⟨-, single, -⟩ := access_under_guards accessor direct rex (world [])
  obtain ⟨before, segment, ref, first, -, fails⟩ := (reads path).2 ⟨_, _, _, meets⟩
  exact ⟨direct, meets, ⟨before, segment, ref, first, fails⟩, rfl,
    ((single path).2.2 _ (.text "Max")).guards (world [])⟩

end PropertyGraph.Accessor
