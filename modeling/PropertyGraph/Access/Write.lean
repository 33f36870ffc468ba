import PropertyGraph.Access.Read

/-!
# Writing properties

A write walks a path from the root and converts the raw value at its end to the declared type.
Beans on the way are changed in place. A list or a map is a value: the one that holds the end of
the path is changed as a copy, and every collection up to the property that holds the outermost one
is put back, through the setter of that property. A write is not undone when a later step fails.

Absent values on the way are made if the options allow it: a bean by its constructor, a list or a
map empty. A list is extended up to an index below the limit; the elements that this skips get the
value that their type has from nothing.
-/
namespace PropertyGraph

/-- A successful write. -/
structure PropertyChange where
  /-- The path as it is written. -/
  property : String
  /-- The value before the write, if it was asked for and could be read. -/
  oldValue? : Option Value
  /-- The value that was handed to the setter or put into the collection. -/
  newValue : Value

/-- What became of a value that a write went into. Every write that succeeds has come to the end of
its path and has converted the raw value there, so there is always a converted value to tell. -/
structure Written where
  /-- The converted raw value. -/
  value : Value
  /-- The changed copy, if the value has to be put back where it came from. -/
  copy? : Option Value

/-- The constant part of a write: the raw value and how it is written. The raw value is looked at
once, when the write comes to the end of its path: `writeLast` and `writeSlot` convert it, every
write goes through just one of them, and what is done on the way back hands on the converted
value. So it is never missing where it is needed, and never converted again. -/
structure WriteRequest where
  /-- The raw value. -/
  raw : Value
  /-- How it is written. -/
  options : AccessOptions

namespace Accessor

/-- Converts a raw value to a declared type. At an optional the converter sees the content alone,
an absent content stays an empty optional, and either of them is put into the optional. -/
def convertTo (converter : Converter) (raw : Value) : DeclaredType → Except ConversionError Value
  | .optional content =>
    let inside : Except ConversionError Value :=
      match raw with
      | .null | .optNone => .ok .optNone
      | .optSome inner => converter.convert inner content
      | bare => converter.convert bare content
    inside.map Value.optSome
  | target => converter.convert raw target

/-- Converts a raw value to the declared type of the slot that the segments lead to. -/
def convertRaw (accessor : Accessor) (walked : List Segment) (raw : Value) (target : DeclaredType) :
    Access Value :=
  ExceptT.mk <| pure <|
    (convertTo accessor.converter raw target).mapError (.typeMismatch (Segment.render walked))

/-- Makes a bean of a type. -/
def construct (accessor : Accessor) (walked : List Segment) (owner type : TypeRef) :
    Access Value := do
  match accessor.registry.constructor? type with
  | .ok make => return .bean (← Access.ofWorld make)
  | .error cause => throw (.growFailed (Segment.render walked) owner (.construction cause))

/-- Makes a value for an absent slot that the segments lead to. -/
def grow (accessor : Accessor) (walked : List Segment) (owner : TypeRef)
    (declared : DeclaredType) : Access Value := do
  let inner := declared.unwrapped
  let value ←
    match inner with
    | .bean type => accessor.construct walked owner type
    | .list _ => pure (.list [])
    | .map _ => pure (.map [])
    | other => throw (.growFailed (Segment.render walked) owner (.notConstructible other))
  Access.record (.grown (Segment.render walked) inner)
  return if declared.isOptional then .optSome value else value

/-- Makes a value for a slot, if absent values are made at all. -/
def growIfAllowed (accessor : Accessor) (request : WriteRequest) (walked : List Segment)
    (owner : TypeRef) (declared : DeclaredType) : Access Value :=
  if request.options.growNested then accessor.grow walked owner declared
  else throw (.growFailed (Segment.render walked) owner .disabled)

/-- Makes an element that the extension of a list skips. -/
def filler (accessor : Accessor) (walked : List Segment) (owner : TypeRef) :
    DeclaredType → Access Value
  | .any | .optional _ => pure .null
  | .bool => pure (.bool false)
  | .int _ => pure (.int 0)
  | .float => pure (.float Binary.zero)
  | .char => pure (.char '\x00')
  | .text => pure (.text "")
  | element => accessor.grow walked owner element

/-- Makes a number of elements that the extension of a list skips. -/
def fillers (accessor : Accessor) (walked : List Segment) (owner : TypeRef)
    (element : DeclaredType) : Nat → Access (List Value)
  | 0 => pure []
  | count + 1 => do
    let first ← accessor.filler walked owner element
    return first :: (← accessor.fillers walked owner element count)

/-- The list with a slot at an index: the list itself, or an extended one that ends with an absent
slot. -/
def extendTo (accessor : Accessor) (request : WriteRequest) (before : List Segment)
    (segment : Segment) (owner : TypeRef) (element : DeclaredType) (index : Nat)
    (items : List Value) : Access (List Value) := do
  let walked := before ++ [segment]
  if index < items.length then
    return items
  if !request.options.growNested then
    throw (.invalidProperty (Segment.render walked) owner (.outOfBounds index items.length))
  if request.options.collectionLimit ≤ index then
    throw (.growFailed (Segment.render walked) owner
      (.limitExceeded index request.options.collectionLimit))
  Access.record (.listExtended (Segment.render before) (index + 1))
  let skipped ← accessor.fillers walked owner element (index - items.length)
  return items ++ skipped ++ [.null]

/-- Writes the rest of a path into a value, given its declared type and the owner of its slot. -/
abbrev Descent := Value → DeclaredType → TypeRef → Access Written

/-- Invokes the setter of a property that the segments lead to. -/
def put (walked : List Segment) (ref : BeanRef) (info : PropertyInfo) (value : Value) :
    Access Unit :=
  Access.invoke walked ref (·.write ref info value)

/-- The property cannot be written, and no other name is suggested. -/
def readOnly (walked : List Segment) (owner : TypeRef) : AccessError :=
  .notWritable (Segment.render walked) owner []

/-- The name is no property that can be written, but some that are close to it may be. -/
def notWritable (accessor : Accessor) (walked : List Segment) (owner : TypeRef) (name : String) :
    AccessError :=
  .notWritable (Segment.render walked) owner (accessor.suggest owner name)

/-- Writes the property of a name, which ends the path. -/
def writeLast (accessor : Accessor) (request : WriteRequest) (walked : List Segment)
    (ref : BeanRef) (name : String) : Access Written := do
  match accessor.capability? ref.type name with
  | some (.property info) =>
    if info.isWritable then
      let value ← accessor.convertRaw walked request.raw info.type
      put walked ref info value
      return ⟨value, none⟩
    else
      throw (accessor.notWritable walked ref.type name)
  | _ => throw (accessor.notWritable walked ref.type name)

/-- Puts a value back into a property that the segments lead to. -/
def putBack (walked : List Segment) (ref : BeanRef) (info : PropertyInfo) (value : Value) :
    Access Unit :=
  if info.isWritable then put walked ref info value else throw (readOnly walked ref.type)

/-- Reads a property to write below it. A value that is absent is made and put into it. -/
def enter (accessor : Accessor) (request : WriteRequest) (walked : List Segment) (ref : BeanRef)
    (info : PropertyInfo) : Access Value := do
  let child ← Access.invoke walked ref (·.read ref info)
  if child.isAbsent then
    let grown ← accessor.growIfAllowed request walked ref.type info.type
    putBack walked ref info grown
    return grown
  else
    return child

/-- Takes the value of a slot of a collection to write below it, or makes it if it is absent. -/
def enterSlot (accessor : Accessor) (request : WriteRequest) (walked : List Segment)
    (owner : TypeRef) (element : DeclaredType) (slot : Value) : Access Value :=
  if slot.isAbsent then accessor.growIfAllowed request walked owner element else pure slot

/-- Writes below a property, and puts the copy back where there is one. -/
def writeThrough (accessor : Accessor) (request : WriteRequest) (walked : List Segment)
    (ref : BeanRef) (info : PropertyInfo) (descend : Descent) : Access Written := do
  let child ← accessor.enter request walked ref info
  let written ← descend child info.type ref.type
  if let some copy := written.copy? then
    putBack walked ref info copy
  return ⟨written.value, none⟩

/-- Writes below the property or the type handle of a name. -/
def writeBelow (accessor : Accessor) (request : WriteRequest) (walked : List Segment)
    (ref : BeanRef) (name : String) (descend : Descent) : Access Written := do
  match accessor.capability? ref.type name with
  | some (.property info) =>
    if info.isReadable then accessor.writeThrough request walked ref info descend
    else throw (.notReadable (Segment.render walked) ref.type)
  | some .handle =>
    let handle ← handleCursor ref.type
    let written ← descend handle.value handle.declared ref.type
    return ⟨written.value, none⟩
  | none => throw (.notReadable (Segment.render walked) ref.type)

/-- Writes into the slot of a collection: the raw value if the path ends there, and else below the
value of the slot, which is made if it is absent. The results are the converted raw value and the
new value of the slot. -/
def writeSlot (accessor : Accessor) (request : WriteRequest) (walked : List Segment)
    (owner : TypeRef) (element : DeclaredType) (slot : Value) (descend? : Option Descent) :
    Access (Value × Value) := do
  match descend? with
  | none =>
    let value ← accessor.convertRaw walked request.raw element
    return (value, value)
  | some descend =>
    let slot ← accessor.enterSlot request walked owner element slot
    let written ← descend slot element owner
    return (written.value, written.copy?.getD slot)

/-- Writes into an element of a list. -/
def writeElement (accessor : Accessor) (request : WriteRequest) (before : List Segment)
    (segment : Segment) (key : String) (owner : TypeRef) (element : DeclaredType)
    (items : List Value) (descend? : Option Descent) : Access (Value × List Value) := do
  let walked := before ++ [segment]
  let index ← listIndex walked owner key
  let items ← accessor.extendTo request before segment owner element index items
  let (value, slot) ←
    accessor.writeSlot request walked owner element (items[index]?.getD .null) descend?
  return (value, items.set index slot)

/-- Writes into an entry of a map. -/
def writeEntry (accessor : Accessor) (request : WriteRequest) (walked : List Segment)
    (key : String) (owner : TypeRef) (element : DeclaredType)
    (entries : List (String × Value)) (descend? : Option Descent) :
    Access (Value × List (String × Value)) := do
  let slot := (Entries.find? key entries).getD .null
  let (value, slot) ← accessor.writeSlot request walked owner element slot descend?
  return (value, Entries.insert key slot entries)

/-- Writes a segment into a value; `descend?` writes the segments behind it, if there are any. The
optionals around a collection are kept. -/
def writeStep (accessor : Accessor) (request : WriteRequest) (before : List Segment)
    (segment : Segment) (descend? : Option Descent) : Descent :=
  fun holder declared owner => do
    let walked := before ++ [segment]
    match holder.core, segment with
    | .bean ref, .name name =>
      match descend? with
      | none => accessor.writeLast request walked ref name
      | some descend => accessor.writeBelow request walked ref name descend
    | .bean ref, segment => throw (unsupported walked ref.type (.bean ref) segment)
    | .list items, .key key _ =>
      let (value, items) ←
        accessor.writeElement request before segment key owner declared.element items descend?
      return ⟨value, some ((Value.list items).wrap holder.depth)⟩
    | .map entries, .key key _ =>
      let (value, entries) ←
        accessor.writeEntry request walked key owner declared.element entries descend?
      return ⟨value, some ((Value.map entries).wrap holder.depth)⟩
    | other, segment => throw (unsupported walked owner other segment)

/-- Writes a row of segments into a value. -/
def writeInto (accessor : Accessor) (request : WriteRequest) (before : List Segment)
    (segment : Segment) : List Segment → Descent
  | [] => accessor.writeStep request before segment none
  | next :: later =>
    accessor.writeStep request before segment
      (some (accessor.writeInto request (before ++ [segment]) next later))

/-- Writes a raw value at a path, giving the converted value. -/
def writePath (accessor : Accessor) (options : AccessOptions) (root : BeanRef)
    (path : PropertyPath) (raw : Value) : Access Value := do
  let written ← accessor.writeInto ⟨raw, options⟩ [] path.first path.later (.bean root)
    (.bean root.type) root.type
  return written.value

/-- Reads the value at a path before a write. A failure is recorded and otherwise ignored. -/
def readOld (accessor : Accessor) (root : BeanRef) (path : PropertyPath) :
    Access (Option Value) :=
  tryCatch (some <$> accessor.get root path) fun error => do
    Access.record (.oldValueUnread path.text error.message)
    return none

/-- Writes a raw value at a path. -/
def setWith (accessor : Accessor) (options : AccessOptions) (root : BeanRef) (path : PropertyPath)
    (raw : Value) : Access PropertyChange := do
  let oldValue? ← if options.extractOldValue then accessor.readOld root path else pure none
  let newValue ← accessor.writePath options root path raw
  return ⟨path.text, oldValue?, newValue⟩

/-- Writes a raw value at a path with the options of the accessor. -/
def set (accessor : Accessor) (root : BeanRef) (path : PropertyPath) (raw : Value) :
    Access PropertyChange :=
  accessor.setWith accessor.options root path raw

end Accessor

end PropertyGraph
