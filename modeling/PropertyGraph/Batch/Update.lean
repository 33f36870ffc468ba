import PropertyGraph.Access.Write
import PropertyGraph.Batch.PropertyValues

/-!
# Batch updates

A batch writes named values one after the other. A failure stops nothing: every value is tried, and
those that succeed stay written. The outcome has an entry for each value with its result, except
for the failures that the options ignore. A batch as a whole succeeds if no entry failed, and else
its error holds every failure.
-/
namespace PropertyGraph

/-- Which failures a batch leaves out. -/
structure BatchOptions where
  /-- Those of a property that does not exist or cannot be written. -/
  ignoreUnknown : Bool := false
  /-- Those of a path that cannot be walked. -/
  ignoreInvalid : Bool := false
deriving DecidableEq, Repr, Inhabited

namespace BatchOptions

/-- The failure is left out. -/
def ignores (options : BatchOptions) (error : AccessError) : Bool :=
  (options.ignoreUnknown && error.isUnknownProperty) ||
    (options.ignoreInvalid && error.isInvalidNavigation)

end BatchOptions

/-- A value of a batch and what became of it. -/
structure BatchEntry where
  /-- The path of the property. -/
  property : String
  /-- The raw value. -/
  value : Value
  /-- The change, or why there is none. -/
  result : Except AccessError PropertyChange

/-- A value of a batch that could not be written. -/
structure PropertyFailure where
  /-- The path of the property. -/
  property : String
  /-- The raw value. -/
  value : Value
  /-- Why it could not be written. -/
  error : AccessError

namespace PropertyFailure

/-- The text of the failure. -/
def text (failure : PropertyFailure) : String :=
  "`" ++ failure.property ++ "`: " ++ failure.error.message

end PropertyFailure

/-- The failures of a batch. -/
structure BatchUpdateError where
  /-- The failures in the order of the batch. -/
  failures : List PropertyFailure

namespace BatchUpdateError

/-- The text of the error. -/
def message (error : BatchUpdateError) : String :=
  let count := error.failures.length
  "failed to set " ++ toString count ++ (if count = 1 then " property: " else " properties: ") ++
    "; ".intercalate (error.failures.map PropertyFailure.text)

/-- The failure of a property. -/
def failure? (error : BatchUpdateError) (property : String) : Option PropertyFailure :=
  error.failures.find? (·.property == property)

end BatchUpdateError

/-- The entries of a batch that was tried to its end. -/
structure BatchOutcome where
  /-- The entries in the order of the batch. -/
  entries : List BatchEntry

namespace BatchOutcome

/-- The changes in order. -/
def changes (outcome : BatchOutcome) : List PropertyChange :=
  outcome.entries.filterMap fun entry => entry.result.toOption

/-- The failures in order. -/
def failures (outcome : BatchOutcome) : List PropertyFailure :=
  outcome.entries.filterMap fun entry =>
    match entry.result with
    | .ok _ => none
    | .error error => some ⟨entry.property, entry.value, error⟩

/-- Number of failures. -/
def failureCount (outcome : BatchOutcome) : Nat :=
  outcome.failures.length

/-- The changes if no entry failed, and else every failure. -/
def toResult (outcome : BatchOutcome) : Except BatchUpdateError (List PropertyChange) :=
  if outcome.failures.isEmpty then .ok outcome.changes else .error ⟨outcome.failures⟩

end BatchOutcome

namespace Accessor

/-- Writes a raw value at the path of a text. -/
def setText (accessor : Accessor) (root : BeanRef) (path : String) (raw : Value) :
    Access PropertyChange := do
  let path ← parsePath path
  accessor.set root path raw

/-- Tries one value of a batch. There is no entry if it fails and the failure is left out. -/
def applyOne (accessor : Accessor) (options : BatchOptions) (root : BeanRef)
    (entry : PropertyValue) : StateM World (Option BatchEntry) := do
  let result ← (accessor.setText root entry.name entry.value).run
  let kept : BatchEntry := ⟨entry.name, entry.value, result⟩
  match result with
  | .ok _ => return some kept
  | .error error =>
    if options.ignores error then
      modify (·.record (.ignored entry.name error.message))
      return none
    else
      modify (·.record (.failed entry.name error.message))
      return some kept

/-- Tries values in order. -/
def applyEach (accessor : Accessor) (options : BatchOptions) (root : BeanRef) :
    List PropertyValue → StateM World (List BatchEntry)
  | [] => return []
  | entry :: rest => do
    let applied ← accessor.applyOne options root entry
    return applied.toList ++ (← accessor.applyEach options root rest)

/-- Writes the values of a batch below a bean. -/
def applyBatch (accessor : Accessor) (options : BatchOptions) (root : BeanRef)
    (values : PropertyValues) : StateM World BatchOutcome := do
  return ⟨← accessor.applyEach options root values.entries⟩

/-- Writes values below a bean; the failures are gathered, and none is left out. -/
def setAll (accessor : Accessor) (root : BeanRef) (values : PropertyValues) :
    StateM World (Except BatchUpdateError (List PropertyChange)) := do
  return (← accessor.applyBatch {} root values).toResult

end Accessor

end PropertyGraph
