import PropertyGraph.Registry.Basic

/-!
# Snapshots

A snapshot shows a bean and everything that can be reached from it through properties that can be
read. Each property is read by its getter, in the order of the table, and the value is shown before
the next property is read. A bean is shown with its properties once, where it is met first. A
property whose getter refuses is shown as the refusal.
-/
namespace PropertyGraph

/-- A value with the beans inside it. -/
inductive Snapshot where
  /-- A value that holds nothing. -/
  | leaf (value : Value)
  | list (items : List Snapshot)
  | map (entries : List (String × Snapshot))
  | optSome (content : Snapshot)
  /-- A bean that was shown before. -/
  | again (ref : BeanRef)
  /-- A bean with its properties. -/
  | bean (ref : BeanRef) (properties : List (String × Snapshot))
  /-- A property that could not be read. -/
  | failure (error : InvocationError)
deriving Inhabited

/-- A snapshot in the making: the world, and the beans shown so far. -/
structure Survey where
  /-- The world. -/
  world : World
  /-- The beans that were shown with their properties. -/
  shown : List BeanRef := []

namespace Snapshot

variable {m : Type → Type} [Monad m]

mutual

/-- Shows a value, given how a bean is shown. -/
def ofValueWith (showBean : BeanRef → m Snapshot) : Value → m Snapshot
  | .list items => list <$> ofItemsWith showBean items
  | .map entries => map <$> ofEntriesWith showBean entries
  | .optSome content => optSome <$> ofValueWith showBean content
  | .bean ref => showBean ref
  | value => pure (leaf value)

/-- Shows values in order. -/
def ofItemsWith (showBean : BeanRef → m Snapshot) : List Value → m (List Snapshot)
  | [] => pure []
  | item :: rest => do
    let shown ← ofValueWith showBean item
    return shown :: (← ofItemsWith showBean rest)

/-- Shows the values of entries in order. -/
def ofEntriesWith (showBean : BeanRef → m Snapshot) :
    List (String × Value) → m (List (String × Snapshot))
  | [] => pure []
  | (key, item) :: rest => do
    let shown ← ofValueWith showBean item
    return (key, shown) :: (← ofEntriesWith showBean rest)

end

/-- Reads a property of a bean. -/
def readProperty (ref : BeanRef) (info : PropertyInfo) :
    StateM Survey (Except InvocationError Value) := fun survey =>
  let (result, world) := survey.world.read ref info
  (result, { survey with world := world })

/-- Shows properties of a bean in order, given how a bean is shown. -/
def ofPropertiesWith (showBean : BeanRef → StateM Survey Snapshot) (ref : BeanRef) :
    List PropertyInfo → StateM Survey (List (String × Snapshot))
  | [] => pure []
  | info :: rest => do
    if info.isReadable then
      let shown ←
        match ← readProperty ref info with
        | .ok value => ofValueWith showBean value
        | .error error => pure (failure error)
      return (info.name, shown) :: (← ofPropertiesWith showBean ref rest)
    else
      ofPropertiesWith showBean ref rest

/-- Shows a bean, with at most the given number of beans on the way to each other. -/
def ofBean (registry : Registry) : Nat → BeanRef → StateM Survey Snapshot
  | 0, ref => pure (again ref)
  | depth + 1, ref => do
    let survey ← get
    if survey.shown.contains ref then return again ref
    set { survey with shown := survey.shown ++ [ref] }
    let properties := ((registry.get? ref.type).map TypeMeta.properties).getD []
    return bean ref (← ofPropertiesWith (ofBean registry depth) ref properties)

end Snapshot

namespace Registry

/-- The snapshot of a bean. No way leads through more beans than there are without meeting one of
them again. -/
def snapshot (registry : Registry) (ref : BeanRef) : StateM World Snapshot := fun world =>
  let (shown, survey) := (Snapshot.ofBean registry (world.beans.size + 1) ref).run ⟨world, []⟩
  (shown, survey.world)

end Registry

end PropertyGraph
