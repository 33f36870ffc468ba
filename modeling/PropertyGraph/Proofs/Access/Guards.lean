import PropertyGraph.Access.Accessor
import PropertyGraph.Access.Read
import PropertyGraph.Declaration.Table
import PropertyGraph.Proofs.Access.Run

/-!
# Guards during accesses

An invocation takes a guard on its bean, shared to read and exclusive to write, and gives it back
before anything else happens. So an access holds no guard between its steps: it leaves those that
callers hold as they are, and where callers hold none, it never meets one (`HoldsNoGuard`). This is
proved of a sequence from its parts. It needs properties that go straight to fields, since a getter
or setter of any other kind could refuse a call in whatever words it likes.
-/
namespace PropertyGraph

/-! ## Invocations -/

namespace World

variable {world : World} {ref : BeanRef}

/-- Takes a guard, runs something, and gives the guard back. -/
def under {α : Type} (world : World) (guard : Guard) (run : World → α × World) : α × World :=
  let (result, after) := run (world.withGuards (guard :: world.guards))
  (result, after.withGuards after.guards.tail)

/-- A bean is read under a shared guard, unless it is under an exclusive one already. -/
theorem read_eq_under (world : World) (ref : BeanRef) (info : PropertyInfo) :
    world.read ref info =
      if world.isHeldExclusively ref then (.error (.borrowed ref.type.path), world)
      else world.under ⟨ref.index, false⟩ fun world =>
        let (result, bean) := info.read (world.bean ref)
        (result, world.putBean ref bean) :=
  rfl

/-- A bean is written under an exclusive guard, unless it is under a guard already. -/
theorem write_eq_under (world : World) (ref : BeanRef) (info : PropertyInfo) (value : Value) :
    world.write ref info value =
      if world.isHeld ref then (.error (.borrowed ref.type.path), world)
      else world.under ⟨ref.index, true⟩ fun world =>
        let (result, bean) := info.write (world.bean ref) value
        (result, world.putBean ref bean) :=
  rfl

/-- A guard that was taken has been given back if nothing else has become of the guards. -/
theorem guards_under {α : Type} {guard : Guard} {run : World → α × World}
    (keeps : ∀ world, (run world).2.guards = world.guards) :
    (world.under guard run).2.guards = world.guards :=
  congrArg List.tail (keeps (world.withGuards (guard :: world.guards)))

/-- Reading a property leaves the guards. -/
theorem guards_read (world : World) (ref : BeanRef) (info : PropertyInfo) :
    (world.read ref info).2.guards = world.guards := by
  rw [read_eq_under]
  split
  · rfl
  · exact guards_under fun _ => rfl

/-- Writing a property leaves the guards. -/
theorem guards_write (world : World) (ref : BeanRef) (info : PropertyInfo) (value : Value) :
    (world.write ref info value).2.guards = world.guards := by
  rw [write_eq_under]
  split
  · rfl
  · exact guards_under fun _ => rfl

end World

/-! ## Properties of fields -/

/-- The property is read and written as fields are. -/
structure PropertyInfo.IsDirect (info : PropertyInfo) : Prop where
  reads : ∀ getter, info.getter? = some getter → ∃ receiver field, getter = .ofField receiver field
  writes : ∀ setter, info.setter? = some setter →
    ∃ receiver field type, setter = .ofField receiver field type

/-- Every property is read and written as fields are, and no constructor takes a guard. -/
structure Registry.IsDirect (registry : Registry) : Prop where
  info : ∀ owner name info, registry.describe? owner name = some info → info.IsDirect
  makes : ∀ type make, registry.constructor? type = .ok make →
    ∀ world, (make world).2.guards = world.guards

/-- A declared property is read and written as its field, if no methods do it instead. -/
theorem DeclaredProperty.isDirect_info {property : DeclaredProperty FieldType}
    (noGetter : property.attributes.getter? = none) (noSetter : property.attributes.setter? = none)
    (methods : BeanMethods) (receiver : TypeRef) : (property.info methods receiver).IsDirect where
  reads getter found := by
    obtain ⟨-, rfl⟩ : _ ∧ property.getter methods receiver = getter := by simpa [info] using found
    exact ⟨receiver, property.ident, by rw [DeclaredProperty.getter, noGetter]⟩
  writes setter found := by
    obtain ⟨-, rfl⟩ : _ ∧ property.setter methods receiver = setter := by simpa [info] using found
    exact ⟨receiver, property.ident, property.type, by rw [DeclaredProperty.setter, noSetter]⟩

namespace PropertyInfo.IsDirect

variable {info : PropertyInfo} {world : World} (direct : info.IsDirect)

include direct

/-- A getter that shows its field never refuses because of a guard. -/
theorem read_ne_borrowed (bean : Bean) (path : String) :
    (info.read bean).1 ≠ .error (.borrowed path) := by
  unfold read
  split
  · next getter found =>
    obtain ⟨receiver, field, rfl⟩ := direct.reads getter found
    unfold Getter.invoke
    split <;> simp [Getter.ofField]
  · simp

/-- A setter that stores in its field never refuses because of a guard. -/
theorem write_ne_borrowed (bean : Bean) (value : Value) (path : String) :
    (info.write bean value).1 ≠ .error (.borrowed path) := by
  unfold write
  split
  · next setter found =>
    obtain ⟨receiver, field, type, rfl⟩ := direct.writes setter found
    unfold Setter.invoke Setter.ofField
    dsimp only
    split
    · split <;> simp
    · simp
  · simp

end PropertyInfo.IsDirect

/-! ## Accesses without guards -/

/-- The error tells of a bean that is under a guard. -/
def AccessError.isBorrowed : AccessError → Bool
  | invocationFailed _ _ (.borrowed _) => true
  | _ => false

/-- The access leaves all guards as they are, and where there are none it does not fail for one. -/
structure Access.HoldsNoGuard {α : Type} (access : Access α) : Prop where
  guards : ∀ world, (access.runOn world).2.guards = world.guards
  free : ∀ world error after, world.guards = [] → access.runOn world = (.error error, after) →
    error.isBorrowed = false

namespace Access.HoldsNoGuard

variable {α β : Type}

/-- Giving a value holds no guard. -/
theorem pure (value : α) : HoldsNoGuard (pure value : Access α) where
  guards _ := rfl
  free _ _ _ _ failed := by cases failed

/-- Failing with an error other than a borrowed bean holds no guard. -/
theorem throw {error : AccessError} (other : error.isBorrowed = false) :
    HoldsNoGuard (throw error : Access α) where
  guards _ := rfl
  free _ _ _ _ failed := by
    cases failed
    exact other

/-- A sequence of parts that hold no guard holds none. -/
theorem bind {first : Access α} {next : α → Access β} (holds : HoldsNoGuard first)
    (further : ∀ value, HoldsNoGuard (next value)) : HoldsNoGuard (first >>= next) where
  guards world := by
    have kept := holds.guards world
    rw [runOn_bind]
    split
    · next value _ => exact ((further value).guards _).trans kept
    · exact kept
  free world error after none failed := by
    rcases runOn_bind_eq_error_iff.1 failed with failed | ⟨value, middle, done, failed⟩
    · exact holds.free world error after none failed
    · have kept := holds.guards world
      rw [done] at kept
      exact (further value).free middle error after (kept.trans none) failed

/-- A record holds no guard. -/
theorem record (entry : LogRecord) : HoldsNoGuard (Access.record entry) where
  guards _ := rfl
  free _ _ _ _ failed := by cases failed

/-- A computation on the world that leaves the guards holds none. -/
theorem ofWorld {run : World → α × World} (keeps : ∀ world, (run world).2.guards = world.guards) :
    HoldsNoGuard (Access.ofWorld run) where
  guards := keeps
  free _ _ _ _ failed := by cases failed

/-- A failure may be handled by an access that holds no guard either. -/
theorem tryCatch {access : Access α} {handle : AccessError → Access α}
    (holds : HoldsNoGuard access) (handled : ∀ error, HoldsNoGuard (handle error)) :
    HoldsNoGuard (tryCatch access handle) where
  guards world := by
    have kept := holds.guards world
    rw [runOn_tryCatch]
    split
    · exact kept
    · next error _ => exact ((handled error).guards _).trans kept
  free world error after none failed := by
    have kept := holds.guards world
    rw [runOn_tryCatch] at failed
    split at failed
    · cases failed
    · next caught _ => exact (handled caught).free _ error after (kept.trans none) failed

/-- An access whose outcome is given does not look at guards. -/
theorem mk_pure {outcome : Except AccessError α}
    (other : ∀ error, outcome = .error error → error.isBorrowed = false) :
    HoldsNoGuard (ExceptT.mk (Pure.pure outcome) : Access α) where
  guards _ := rfl
  free _ error _ _ failed := other error (Prod.mk.inj failed).1

/-- An invocation that leaves the guards and meets none where there is none holds no guard. -/
theorem invoke (walked : List Segment) (ref : BeanRef)
    {run : World → Except InvocationError α × World}
    (keeps : ∀ world, (run world).2.guards = world.guards)
    (other : ∀ world path, world.guards = [] → (run world).1 ≠ .error (.borrowed path)) :
    HoldsNoGuard (Access.invoke walked ref run) where
  guards := keeps
  free world error after none failed := by
    rw [runOn_invoke] at failed
    cases result : (run world).1 with
    | ok value => simp [result] at failed
    | error cause =>
      obtain ⟨rfl, -⟩ : _ = error ∧ _ := by simpa [result] using failed
      cases cause with
      | borrowed path => exact absurd result (other world path none)
      | _ => rfl

/-- A property that goes straight to a field is read without a guard that stays. -/
theorem read {info : PropertyInfo} (direct : info.IsDirect) (walked : List Segment)
    (ref : BeanRef) : HoldsNoGuard (Access.invoke walked ref (·.read ref info)) := by
  refine .invoke walked ref (fun world => world.guards_read ref info) fun world path none => ?_
  have free : world.isHeldExclusively ref = false := by simp [World.isHeldExclusively, none]
  simpa [World.read, free] using direct.read_ne_borrowed (world.bean ref) path

/-- A property that goes straight to a field is written without a guard that stays. -/
theorem write {info : PropertyInfo} (direct : info.IsDirect) (walked : List Segment)
    (ref : BeanRef) (value : Value) :
    HoldsNoGuard (Access.invoke walked ref (·.write ref info value)) := by
  refine .invoke walked ref (fun world => world.guards_write ref info value)
    fun world path none => ?_
  have free : world.isHeld ref = false := by simp [World.isHeld, none]
  simpa [World.write, free] using direct.write_ne_borrowed (world.bean ref) value path

end Access.HoldsNoGuard

end PropertyGraph
