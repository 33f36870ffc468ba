import PropertyGraph.Access.Write
import PropertyGraph.Proofs.Access.Run

/-!
# Writes as plans

A write has two parts. The first walks the path: it reads, makes what is absent where that is
allowed, and finds the declared type that the raw value has to be converted to. What is left to do
then is a plan, a row of values that are put into properties one after the other, the innermost
first. `writeInto_eq_plan` says that the write is nothing but the walk, the conversion and the
plan; whatever is proved of writes is proved of these three.
-/
namespace PropertyGraph

/-- A value that is put into a property at the end of a row of segments. -/
structure Put where
  /-- The segments that lead to the property. -/
  walked : List Segment
  /-- The bean that has the property. -/
  ref : BeanRef
  /-- The property. -/
  info : PropertyInfo
  /-- The value. -/
  value : Value

/-- What is left of a write into a value when its path has been walked. -/
structure Plan where
  /-- The segments up to the end of the path. -/
  walked : List Segment
  /-- The declared type that the raw value is converted to. -/
  target : DeclaredType
  /-- The beans on which names have been resolved, in order. -/
  holders : List BeanRef
  /-- What is put for a converted value, in order. -/
  puts : Value → List Put
  /-- The copy of the value that the write goes into, if it has to be put back. -/
  copy? : Option (Value → Value)

namespace Plan

/-- The plan for a property of a bean, given the plan for its value. A copy is put into the
property at last. -/
def behindProperty (plan : Plan) (walked : List Segment) (ref : BeanRef) (info : PropertyInfo) :
    Plan :=
  { plan with
    holders := ref :: plan.holders
    puts := fun value =>
      plan.puts value ++ (plan.copy?.map fun copy => ⟨walked, ref, info, copy value⟩).toList
    copy? := none }

/-- The plan for the type handle of a bean, given the plan for the handle. -/
def behindHandle (plan : Plan) (ref : BeanRef) : Plan :=
  { plan with
    holders := ref :: plan.holders
    copy? := none }

/-- The plan for a collection, given the plan for a slot of it that holds a value, and how the
collection is made from the slot's new value. -/
def inCollection (plan : Plan) (slot : Value) (rebuild : Value → Value) : Plan :=
  { plan with copy? := some fun value => rebuild ((plan.copy?.map (· value)).getD slot) }

end Plan

namespace Accessor

/-- Puts values into properties in order. -/
def putAll : List Put → Access Unit
  | [] => pure ()
  | step :: rest => do
    putBack step.walked step.ref step.info step.value
    putAll rest

/-- Does what a plan leaves to do. -/
def carryOut (accessor : Accessor) (request : WriteRequest) (plan : Plan) : Access Written := do
  let value ← accessor.convertRaw plan.walked request.raw plan.target
  putAll (plan.puts value)
  return ⟨value, plan.copy?.map (· value)⟩

/-- Walks the rest of a path into a value, given its declared type and the owner of its slot. -/
abbrev Walk := Value → DeclaredType → TypeRef → Access Plan

/-- Plans to write the property of a name, which ends the path. -/
def planLast (accessor : Accessor) (walked : List Segment) (ref : BeanRef) (name : String) :
    Access Plan :=
  match accessor.capability? ref.type name with
  | some (.property info) =>
    if info.isWritable then
      pure ⟨walked, info.type, [ref], fun value => [⟨walked, ref, info, value⟩], none⟩
    else
      throw (accessor.notWritable walked ref.type name)
  | _ => throw (accessor.notWritable walked ref.type name)

/-- Plans to write below the property or the type handle of a name. -/
def planBelow (accessor : Accessor) (request : WriteRequest) (walked : List Segment)
    (ref : BeanRef) (name : String) (walk : Walk) : Access Plan :=
  match accessor.capability? ref.type name with
  | some (.property info) =>
    if info.isReadable then do
      let child ← accessor.enter request walked ref info
      let plan ← walk child info.type ref.type
      return plan.behindProperty walked ref info
    else
      throw (.notReadable (Segment.render walked) ref.type)
  | some .handle => do
    let handle ← handleCursor ref.type
    let plan ← walk handle.value handle.declared ref.type
    return plan.behindHandle ref
  | none => throw (.notReadable (Segment.render walked) ref.type)

/-- Plans to write into a slot of a collection. -/
def planSlot (accessor : Accessor) (request : WriteRequest) (walked : List Segment)
    (owner : TypeRef) (element : DeclaredType) (slot : Value) (rebuild : Value → Value) :
    Option Walk → Access Plan
  | none => pure ⟨walked, element, [], fun _ => [], some rebuild⟩
  | some walk => do
    let slot ← accessor.enterSlot request walked owner element slot
    let plan ← walk slot element owner
    return plan.inCollection slot rebuild

/-- Plans to write a segment into a value; `walk?` walks the segments behind it, if there are
any. -/
def planStep (accessor : Accessor) (request : WriteRequest) (before : List Segment)
    (segment : Segment) (walk? : Option Walk) : Walk :=
  fun holder declared owner =>
    let walked := before ++ [segment]
    match holder.core, segment with
    | .bean ref, .name name =>
      match walk? with
      | none => accessor.planLast walked ref name
      | some walk => accessor.planBelow request walked ref name walk
    | .bean ref, segment => throw (unsupported walked ref.type (.bean ref) segment)
    | .list items, .key key _ => do
      let index ← listIndex walked owner key
      let items ← accessor.extendTo request before segment owner declared.element index items
      accessor.planSlot request walked owner declared.element (items[index]?.getD .null)
        (fun slot => (Value.list (items.set index slot)).wrap holder.depth) walk?
    | .map entries, .key key _ =>
      accessor.planSlot request walked owner declared.element
        ((Entries.find? key entries).getD .null)
        (fun slot => (Value.map (Entries.insert key slot entries)).wrap holder.depth) walk?
    | other, segment => throw (unsupported walked owner other segment)

/-- Plans to write a row of segments into a value. -/
def planInto (accessor : Accessor) (request : WriteRequest) (before : List Segment)
    (segment : Segment) : List Segment → Walk
  | [] => accessor.planStep request before segment none
  | next :: later =>
    accessor.planStep request before segment
      (some (accessor.planInto request (before ++ [segment]) next later))

/-- Plans to write a raw value at a path. -/
def planPath (accessor : Accessor) (request : WriteRequest) (root : BeanRef)
    (path : PropertyPath) : Access Plan :=
  accessor.planInto request [] path.first path.later (.bean root) (.bean root.type) root.type

/-! ## A write is its plan -/

section

variable {accessor : Accessor} {request : WriteRequest}

/-- Two rows are put one after the other. -/
theorem putAll_append (first rest : List Put) :
    putAll (first ++ rest) = (do putAll first; putAll rest) := by
  induction first with
  | nil => simp [putAll]
  | cons step first ih => simp [putAll, ih]

/-- A row of puts fails at the first that fails, behind those that are done. -/
theorem putAll_eq_error_iff {puts : List Put} {world after : World} {error : AccessError} :
    (putAll puts).runOn world = (.error error, after) ↔
      ∃ done put rest middle, puts = done ++ put :: rest ∧
        (putAll done).runOn world = (.ok (), middle) ∧
        (putBack put.walked put.ref put.info put.value).runOn middle = (.error error, after) := by
  constructor
  · intro failed
    induction puts generalizing world with
    | nil => simp [putAll] at failed
    | cons first rest ih =>
      rcases Access.runOn_bind_eq_error_iff.1 failed with refused | ⟨_, next, put, failed⟩
      · exact ⟨[], first, rest, world, rfl, rfl, refused⟩
      · obtain ⟨done, refuser, behind, middle, rfl, before, refused⟩ := ih failed
        exact ⟨first :: done, refuser, behind, middle, rfl,
          (Access.runOn_bind_of_ok put _).trans before, refused⟩
  · rintro ⟨done, put, rest, middle, rfl, before, refused⟩
    rw [putAll_append, Access.runOn_bind_of_ok before]
    exact Access.runOn_bind_of_error refused _

/-- The write of a name that ends the path is its plan, carried out. -/
theorem writeLast_eq_plan (walked : List Segment) (ref : BeanRef) (name : String) :
    accessor.writeLast request walked ref name =
      accessor.planLast walked ref name >>= accessor.carryOut request := by
  simp only [writeLast, planLast]
  cases accessor.capability? ref.type name with
  | none => simp
  | some found =>
    cases found with
    | handle => simp
    | property info =>
      by_cases writable : info.isWritable
      · simp [writable, carryOut, putAll, putBack]
      · simp [writable]

/-- Carrying out the plan of a property carries out the plan of its value, and then puts the copy
into the property. -/
theorem carryOut_behindProperty (plan : Plan) (walked : List Segment) (ref : BeanRef)
    (info : PropertyInfo) :
    accessor.carryOut request (plan.behindProperty walked ref info) = do
      let written ← accessor.carryOut request plan
      if let some copy := written.copy? then
        putBack walked ref info copy
      return ⟨written.value, none⟩ := by
  cases copied : plan.copy? with
  | none => simp [carryOut, Plan.behindProperty, copied]
  | some copy => simp [carryOut, Plan.behindProperty, copied, putAll_append, putAll]

/-- Carrying out the plan of a collection carries out the plan of its slot, and remakes the copy. -/
theorem carryOut_inCollection (plan : Plan) (slot : Value) (rebuild : Value → Value) :
    accessor.carryOut request (plan.inCollection slot rebuild) = do
      let written ← accessor.carryOut request plan
      return ⟨written.value, some (rebuild (written.copy?.getD slot))⟩ := by
  simp [carryOut, Plan.inCollection]

/-- The write that walks and then carries out the plan. -/
def descentOf (accessor : Accessor) (request : WriteRequest) (walk : Walk) : Descent :=
  fun holder declared owner => walk holder declared owner >>= accessor.carryOut request

/-- The write below a name is its plan, carried out. -/
theorem writeBelow_eq_plan (walked : List Segment) (ref : BeanRef) (name : String) (walk : Walk) :
    accessor.writeBelow request walked ref name (accessor.descentOf request walk) =
      accessor.planBelow request walked ref name walk >>= accessor.carryOut request := by
  simp only [writeBelow, planBelow]
  cases accessor.capability? ref.type name with
  | none => simp
  | some found =>
    cases found with
    | handle => simp [descentOf, carryOut, Plan.behindHandle]
    | property info =>
      by_cases readable : info.isReadable
      · simp only [readable, ↓reduceIte, writeThrough, descentOf, bind_assoc]
        refine congrArg (accessor.enter request walked ref info >>= ·) (funext fun child => ?_)
        refine congrArg (walk child info.type ref.type >>= ·) (funext fun plan => ?_)
        rw [pure_bind]
        exact (carryOut_behindProperty plan walked ref info).symm
      · simp [readable]

/-- The write into a slot is its plan, carried out. -/
theorem writeSlot_eq_plan (walked : List Segment) (owner : TypeRef) (element : DeclaredType)
    (slot : Value) (rebuild : Value → Value) (walk? : Option Walk) :
    (do
      let (value, slot) ← accessor.writeSlot request walked owner element slot
        (walk?.map (accessor.descentOf request))
      return (⟨value, some (rebuild slot)⟩ : Written)) =
      accessor.planSlot request walked owner element slot rebuild walk? >>=
        accessor.carryOut request := by
  cases walk? with
  | none => simp [writeSlot, planSlot, carryOut, putAll]
  | some walk => simp [writeSlot, planSlot, descentOf, carryOut_inCollection]

/-- The write of a segment is its plan, carried out. -/
theorem writeStep_eq_plan (before : List Segment) (segment : Segment) (walk? : Option Walk)
    (holder : Value) (declared : DeclaredType) (owner : TypeRef) :
    accessor.writeStep request before segment (walk?.map (accessor.descentOf request)) holder
        declared owner =
      accessor.planStep request before segment walk? holder declared owner >>=
        accessor.carryOut request := by
  cases core : holder.core with
  | bean ref =>
    cases segment with
    | name name =>
      cases walk? with
      | none => simp [writeStep, planStep, core, writeLast_eq_plan]
      | some walk => simp [writeStep, planStep, core, writeBelow_eq_plan]
    | key key isQuoted => simp [writeStep, planStep, core]
  | list items =>
    cases segment with
    | name name => simp [writeStep, planStep, core]
    | key key isQuoted => simp [writeStep, planStep, core, writeElement, ← writeSlot_eq_plan]
  | map entries =>
    cases segment with
    | name name => simp [writeStep, planStep, core]
    | key key isQuoted => simp [writeStep, planStep, core, writeEntry, ← writeSlot_eq_plan]
  | _ => simp [writeStep, planStep, core]

/-- A write into a value walks the path, converts the raw value and puts values into properties. -/
theorem writeInto_eq_plan (later : List Segment) :
    ∀ (before : List Segment) (segment : Segment) (holder : Value) (declared : DeclaredType)
      (owner : TypeRef),
      accessor.writeInto request before segment later holder declared owner =
        accessor.planInto request before segment later holder declared owner >>=
          accessor.carryOut request := by
  induction later with
  | nil =>
    intro before segment holder declared owner
    exact writeStep_eq_plan before segment none holder declared owner
  | cons next later ih =>
    intro before segment holder declared owner
    have below : accessor.writeInto request (before ++ [segment]) next later =
        accessor.descentOf request
          (accessor.planInto request (before ++ [segment]) next later) := by
      funext holder declared owner
      exact ih (before ++ [segment]) next holder declared owner
    rw [writeInto, below]
    exact writeStep_eq_plan before segment (some _) holder declared owner

/-- A write at a path walks it, converts the raw value and puts values into properties. -/
theorem writePath_eq_plan (options : AccessOptions) (root : BeanRef) (path : PropertyPath)
    (raw : Value) :
    accessor.writePath options root path raw = do
      let plan ← accessor.planPath ⟨raw, options⟩ root path
      let value ← accessor.convertRaw plan.walked raw plan.target
      putAll (plan.puts value)
      return value := by
  simp [writePath, writeInto_eq_plan, planPath, carryOut]

end

end Accessor

end PropertyGraph
