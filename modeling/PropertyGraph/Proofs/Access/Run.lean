import PropertyGraph.Access.Read

/-!
# Runs of accesses

An access is run on a world and gives a result and a world. A sequence of two accesses succeeds
exactly if both of them do, the second on the world that the first leaves behind; it fails if the
first fails, or the second after it. These two facts take every finished run apart.
-/
namespace PropertyGraph

namespace Access

variable {α β : Type}

/-- Runs an access on a world. -/
def runOn (access : Access α) (world : World) : Except AccessError α × World :=
  access world

/-- Nothing happens in a constant access. -/
@[simp]
theorem runOn_pure (value : α) (world : World) :
    runOn (pure value) world = (.ok value, world) :=
  rfl

/-- A failed access leaves the world as it is. -/
@[simp]
theorem runOn_throw (error : AccessError) (world : World) :
    runOn (throw error : Access α) world = (.error error, world) :=
  rfl

/-- A sequence runs its first part, and goes on only if that succeeds. -/
theorem runOn_bind (first : Access α) (next : α → Access β) (world : World) :
    runOn (first >>= next) world = match (runOn first world).1 with
      | .ok value => runOn (next value) (runOn first world).2
      | .error error => (.error error, (runOn first world).2) := by
  change ExceptT.bindCont next (runOn first world).1 (runOn first world).2 = _
  cases (runOn first world).1 <;> rfl

/-- A sequence whose first part succeeds goes on with the result and the world of that part. -/
theorem runOn_bind_of_ok {first : Access α} {world middle : World} {value : α}
    (done : runOn first world = (.ok value, middle)) (next : α → Access β) :
    runOn (first >>= next) world = runOn (next value) middle := by
  rw [runOn_bind, done]

/-- A sequence whose first part fails stops there. -/
theorem runOn_bind_of_error {first : Access α} {world middle : World} {error : AccessError}
    (failed : runOn first world = (.error error, middle)) (next : α → Access β) :
    runOn (first >>= next) world = (.error error, middle) := by
  rw [runOn_bind, failed]

/-- A sequence succeeds exactly if both of its parts do. -/
theorem runOn_bind_eq_ok_iff {first : Access α} {next : α → Access β} {world after : World}
    {result : β} :
    runOn (first >>= next) world = (.ok result, after) ↔
      ∃ value middle, runOn first world = (.ok value, middle) ∧
        runOn (next value) middle = (.ok result, after) := by
  rw [runOn_bind]
  rcases runOn first world with ⟨(error | value), middle⟩
  · simp
  · simp [and_assoc]

/-- A sequence fails in its first part, or in its second part after the first has succeeded. -/
theorem runOn_bind_eq_error_iff {first : Access α} {next : α → Access β} {world after : World}
    {error : AccessError} :
    runOn (first >>= next) world = (.error error, after) ↔
      runOn first world = (.error error, after) ∨
        ∃ value middle, runOn first world = (.ok value, middle) ∧
          runOn (next value) middle = (.error error, after) := by
  rw [runOn_bind]
  rcases runOn first world with ⟨(fault | value), middle⟩
  · simp
  · simp [and_assoc]

/-- A caught failure is handled in the world that it leaves behind. -/
theorem runOn_tryCatch (access : Access α) (handle : AccessError → Access α) (world : World) :
    runOn (tryCatch access handle) world = match (runOn access world).1 with
      | .ok value => (.ok value, (runOn access world).2)
      | .error error => runOn (handle error) (runOn access world).2 := by
  simp only [runOn, tryCatch, tryCatchThe, MonadExceptOf.tryCatch, ExceptT.tryCatch, ExceptT.mk,
    bind, StateT.bind]
  rcases access world with ⟨(error | value), after⟩ <;> rfl

/-- A function is applied to the result alone. -/
theorem runOn_map (change : α → β) (access : Access α) (world : World) :
    runOn (change <$> access) world =
      ((runOn access world).1.map change, (runOn access world).2) := by
  rw [map_eq_pure_bind, runOn_bind]
  rcases runOn access world with ⟨(error | value), after⟩ <;> rfl

/-- A change of the error leaves a success. -/
@[simp]
theorem mapError_ok {ε ε' : Type} (change : ε → ε') (value : α) :
    (Except.ok value : Except ε α).mapError change = .ok value :=
  rfl

/-- A change of the error changes a failure. -/
@[simp]
theorem mapError_error {ε ε' : Type} (change : ε → ε') (error : ε) :
    (Except.error error : Except ε α).mapError change = .error (change error) :=
  rfl

/-- An access with a given outcome does not look at the world. -/
@[simp]
theorem runOn_mk_pure (outcome : Except AccessError α) (world : World) :
    runOn (ExceptT.mk (pure outcome)) world = (outcome, world) :=
  rfl

/-- A computation on the world succeeds as an access. -/
@[simp]
theorem runOn_ofWorld (run : World → α × World) (world : World) :
    runOn (ofWorld run) world = (.ok (run world).1, (run world).2) :=
  rfl

/-- An invocation that refuses fails with the property that was walked to. -/
@[simp]
theorem runOn_invoke (walked : List Segment) (ref : BeanRef)
    (run : World → Except InvocationError α × World) (world : World) :
    runOn (invoke walked ref run) world =
      ((run world).1.mapError (.invocationFailed (Segment.render walked) ref.type),
        (run world).2) :=
  rfl

/-- An invocation succeeds with what the bean gives. -/
theorem runOn_invoke_eq_ok_iff {walked : List Segment} {ref : BeanRef}
    {run : World → Except InvocationError α × World} {world after : World} {value : α} :
    runOn (invoke walked ref run) world = (.ok value, after) ↔ run world = (.ok value, after) := by
  rw [runOn_invoke]
  rcases run world with ⟨(error | given), later⟩ <;> simp

/-- Nothing follows a failure. -/
@[simp]
theorem throw_bind (error : AccessError) (next : α → Access β) :
    (throw error >>= next) = throw error :=
  rfl

end Access

namespace Accessor

variable {accessor : Accessor} {root : BeanRef} {world : World}

/-- A text that can be read as a path stands for the path. -/
theorem parsePath_of_parse {text : String} {path : PropertyPath}
    (read : PropertyPath.parse text = .ok path) : parsePath text = pure path := by
  rw [parsePath, read]
  rfl

/-- A test of a described property is run as its description is. -/
theorem run_describes (text : String) (test : PropertyDescriptor → Bool) (world : World) :
    (accessor.describes root text test).run world =
      match (parsePath text >>= accessor.describe root).runOn world with
      | (.ok descriptor, seen) => (test descriptor, seen)
      | (.error _, seen) => (false, seen) := by
  have same : (parsePath text >>= accessor.describe root).run.run world =
      (parsePath text >>= accessor.describe root).runOn world := rfl
  rw [describes, StateT.run_bind, same]
  rcases (parsePath text >>= accessor.describe root).runOn world with
    ⟨(error | descriptor), seen⟩ <;> rfl

/-- A test of the property at the path of a text holds of a property that is described. -/
theorem describes_iff {text : String} {test : PropertyDescriptor → Bool} :
    ((accessor.describes root text test).run world).1 = true ↔
      ∃ path descriptor seen, PropertyPath.parse text = .ok path ∧
        (accessor.describe root path).runOn world = (.ok descriptor, seen) ∧
        test descriptor = true := by
  rw [run_describes, parsePath, Access.runOn_bind, Access.runOn_mk_pure]
  cases PropertyPath.parse text with
  | error cause => simp
  | ok path =>
    simp only [Access.mapError_ok, Except.ok.injEq]
    rcases described : (accessor.describe root path).runOn world with
      ⟨(error | descriptor), seen⟩ <;> simp [described]

end Accessor

end PropertyGraph
