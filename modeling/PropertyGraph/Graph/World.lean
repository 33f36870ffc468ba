import PropertyGraph.Graph.Bean

/-!
# The world of beans

All beans that exist, each in a place of its own that a reference leads to, and the guards that
callers hold on them. A bean under an exclusive guard can be neither read nor written, one under a
shared guard only read. The world also keeps the records of what happened to it.
-/
namespace PropertyGraph

/-- A record of something that happened. -/
inductive LogRecord where
  /-- A bean type was registered. -/
  | registered (type : TypeRef)
  /-- The list at a path was extended. -/
  | listExtended (path : String) (length : Nat)
  /-- A new value of a type was put at a path. -/
  | grown (path : String) (type : DeclaredType)
  /-- The value before a write could not be read. -/
  | oldValueUnread (path reason : String)
  /-- A failed entry of a batch was left out. -/
  | ignored (name reason : String)
  /-- An entry of a batch failed. -/
  | failed (name reason : String)
deriving DecidableEq, Repr

namespace LogRecord

/-- The level of the record. -/
def level : LogRecord → String
  | registered _ | listExtended _ _ | grown _ _ => "TRACE"
  | oldValueUnread _ _ | ignored _ _ | failed _ _ => "DEBUG"

/-- The text of the record. -/
def message : LogRecord → String
  | registered type => "registered bean type `" ++ type.path ++ "`"
  | listExtended path length => "growing `" ++ path ++ "` to length " ++ toString length
  | grown path type => "auto-growing `" ++ path ++ "` with a new `" ++ type.name ++ "`"
  | oldValueUnread path reason => "could not read the old value of `" ++ path ++ "`: " ++ reason
  | ignored name reason => "ignoring property `" ++ name ++ "`: " ++ reason
  | failed name reason => "failed to set property `" ++ name ++ "`: " ++ reason

/-- The record with its level. -/
def text (record : LogRecord) : String :=
  record.level ++ " " ++ record.message

end LogRecord

/-- A hold on a bean. -/
structure Guard where
  /-- Place of the bean. -/
  index : Nat
  /-- The bean can be neither read nor written under the guard. -/
  isExclusive : Bool
deriving DecidableEq, Repr

/-- The beans that exist, the guards on them and the records so far. -/
structure World where
  /-- The beans by place. -/
  beans : Array Bean := #[]
  /-- The guards that callers hold. -/
  guards : List Guard := []
  /-- What happened, the latest record last. -/
  log : List LogRecord := []

/-- The empty world. -/
instance : Inhabited World := ⟨{}⟩

namespace World

/-- The bean that a reference leads to. -/
def bean (world : World) (ref : BeanRef) : Bean :=
  world.beans[ref.index]?.getD ⟨ref.type, []⟩

/-- Puts a bean in the place of another. -/
def putBean (world : World) (ref : BeanRef) (bean : Bean) : World :=
  { world with beans := world.beans.setIfInBounds ref.index bean }

/-- Changes the bean that a reference leads to. -/
def modifyBean (world : World) (ref : BeanRef) (change : Bean → Bean) : World :=
  world.putBean ref (change (world.bean ref))

/-- Adds a bean in a new place. -/
def add (world : World) (bean : Bean) : BeanRef × World :=
  (⟨world.beans.size, bean.type⟩, { world with beans := world.beans.push bean })

/-- Adds a record. -/
def record (world : World) (entry : LogRecord) : World :=
  { world with log := world.log ++ [entry] }

/-- Takes the records out. -/
def takeLog (world : World) : List LogRecord × World :=
  (world.log, { world with log := [] })

/-- Replaces the guards. -/
def withGuards (world : World) (guards : List Guard) : World :=
  { world with guards := guards }

/-- The bean is under an exclusive guard. -/
def isHeldExclusively (world : World) (ref : BeanRef) : Bool :=
  world.guards.any fun guard => guard.index == ref.index && guard.isExclusive

/-- The bean is under a guard. -/
def isHeld (world : World) (ref : BeanRef) : Bool :=
  world.guards.any fun guard => guard.index == ref.index

/-- Reads a property of the bean that a reference leads to. -/
def read (world : World) (ref : BeanRef) (info : PropertyInfo) :
    Except InvocationError Value × World :=
  if world.isHeldExclusively ref then (.error (.borrowed ref.type.path), world)
  else
    let (result, bean) := info.read (world.bean ref)
    (result, world.putBean ref bean)

/-- Writes a property of the bean that a reference leads to. -/
def write (world : World) (ref : BeanRef) (info : PropertyInfo) (value : Value) :
    Except InvocationError Unit × World :=
  if world.isHeld ref then (.error (.borrowed ref.type.path), world)
  else
    let (result, bean) := info.write (world.bean ref) value
    (result, world.putBean ref bean)

end World

end PropertyGraph
