import PropertyGraph.Access.Accessor

/-!
# Reading and describing properties

A read walks a path from the root, one segment at a time, and keeps with the value reached what is
known about its slot: the declared type, the type of the bean whose property it belongs to, and
whether that property can be read and written. A name reads a property, a key takes an element of a
list or an entry of a map; a missing entry reads as `null`. Optionals are seen through. Every
segment but the last has to lead to a value that is present. A description walks the same way and
stops before the last segment.
-/
namespace PropertyGraph

/-- A value on the way of a path and its slot. -/
structure Cursor where
  /-- The value. -/
  value : Value
  /-- The declared type of the slot. -/
  declared : DeclaredType
  /-- The type of the bean that holds the property. -/
  owner : TypeRef
  /-- The property can be read. -/
  isReadable : Bool
  /-- The property can be written. -/
  isWritable : Bool

/-- What is known of a property without reading it. -/
structure PropertyDescriptor where
  /-- The path as it is written. -/
  property : String
  /-- The type of the bean that holds the property. -/
  owner : TypeRef
  /-- The declared type; that of the elements behind a key. -/
  type : DeclaredType
  /-- The property can be read. -/
  isReadable : Bool
  /-- The property can be written. -/
  isWritable : Bool

namespace Cursor

/-- The root of a path. -/
def root (ref : BeanRef) : Cursor :=
  ⟨.bean ref, .bean ref.type, ref.type, true, false⟩

/-- An element of the collection under the cursor. -/
def element (cursor : Cursor) (value : Value) : Cursor :=
  { cursor with value := value, declared := cursor.declared.element }

end Cursor

namespace Accessor

/-- The place in a list that a key stands for: a number below 2⁶⁴. -/
def listIndex? (key : String) : Option Nat :=
  (Numeral.read 10 (Nat.pow 2 64) key.toList).toOption

/-- The place in a list that the key behind a row of segments stands for. -/
def listIndex (walked : List Segment) (owner : TypeRef) (key : String) : Access Nat :=
  match listIndex? key with
  | some index => pure index
  | none => throw (.invalidProperty (Segment.render walked) owner (.notAnIndex key))

/-- A segment that the value before it cannot have. -/
def unsupported (walked : List Segment) (owner : TypeRef) (value : Value) (segment : Segment) :
    AccessError :=
  .invalidProperty (Segment.render walked) owner
    (if segment.isName then .noNamedProperty value.kind else .noElement value.kind)

/-- A new handle of a bean type, and its slot. -/
def handleCursor (owner : TypeRef) : Access Cursor := do
  let ref ← Access.ofWorld (·.add (TypeHandle.bean owner))
  pure ⟨.bean ref, .bean TypeHandle.type, owner, true, false⟩

/-- Reads a name on a bean; the name ends the row of segments. -/
def readName (accessor : Accessor) (walked : List Segment) (ref : BeanRef) (name : String) :
    Access Cursor := do
  match accessor.capability? ref.type name with
  | some (.property info) =>
    if info.isReadable then
      let value ← Access.invoke walked ref (·.read ref info)
      pure ⟨value, info.type, ref.type, true, info.isWritable⟩
    else
      throw (.notReadable (Segment.render walked) ref.type)
  | some .handle => handleCursor ref.type
  | none => throw (.notReadable (Segment.render walked) ref.type)

/-- Reads the segment behind a row of segments from the value under the cursor. -/
def step (accessor : Accessor) (cursor : Cursor) (before : List Segment) (segment : Segment) :
    Access Cursor := do
  let walked := before ++ [segment]
  match cursor.value.unwrapped, segment with
  | .bean ref, .name name => accessor.readName walked ref name
  | .list items, .key key _ =>
    let index ← listIndex walked cursor.owner key
    match items[index]? with
    | some value => pure (cursor.element value)
    | none =>
      throw (.invalidProperty (Segment.render walked) cursor.owner
        (.outOfBounds index items.length))
  | .map entries, .key key _ => pure (cursor.element ((Entries.find? key entries).getD .null))
  | value, segment => throw (unsupported walked cursor.owner value segment)

/-- Where the last segment of a path is resolved. -/
structure Parent where
  /-- The value before the last segment. -/
  cursor : Cursor
  /-- The segments before the last. -/
  before : List Segment
  /-- The last segment. -/
  last : Segment

/-- Reads every segment but the last. -/
def navigate (accessor : Accessor) (cursor : Cursor) (before : List Segment) (segment : Segment) :
    List Segment → Access Parent
  | [] => pure ⟨cursor, before, segment⟩
  | next :: later => do
    let cursor ← accessor.step cursor before segment
    if cursor.value.isAbsent then
      throw (.nullValue (Segment.render (before ++ [segment])) cursor.owner)
    accessor.navigate cursor (before ++ [segment]) next later

/-- Reads every segment of a path but the last. -/
def parent (accessor : Accessor) (root : BeanRef) (path : PropertyPath) : Access Parent :=
  accessor.navigate (.root root) [] path.first path.later

/-- Reads the value at a path. -/
def get (accessor : Accessor) (root : BeanRef) (path : PropertyPath) : Access Value := do
  let parent ← accessor.parent root path
  let cursor ← accessor.step parent.cursor parent.before parent.last
  pure cursor.value.unwrapped

/-- Describes the segment behind a row of segments on the value under the cursor. -/
def describeStep (accessor : Accessor) (cursor : Cursor) (before : List Segment)
    (segment : Segment) : Access PropertyDescriptor := do
  let walked := before ++ [segment]
  let property := Segment.render walked
  let element : PropertyDescriptor :=
    ⟨property, cursor.owner, cursor.declared.element, cursor.isReadable, cursor.isWritable⟩
  match cursor.value.unwrapped, segment with
  | .bean ref, .name name =>
    match accessor.capability? ref.type name with
    | some (.property info) =>
      pure ⟨property, ref.type, info.type, info.isReadable, info.isWritable⟩
    | some .handle =>
      let handle ← handleCursor ref.type
      pure ⟨property, ref.type, handle.declared, handle.isReadable, handle.isWritable⟩
    | none => throw (.invalidProperty property ref.type .noSuchProperty)
  | .list _, .key key _ =>
    let _ ← listIndex walked cursor.owner key
    pure element
  | .map _, .key _ _ => pure element
  | value, segment => throw (unsupported walked cursor.owner value segment)

/-- Describes the last segment of a path. -/
def describe (accessor : Accessor) (root : BeanRef) (path : PropertyPath) :
    Access PropertyDescriptor := do
  let parent ← accessor.parent root path
  accessor.describeStep parent.cursor parent.before parent.last

/-- Reads a path from its text. -/
def parsePath (text : String) : Access PropertyPath :=
  ExceptT.mk (pure ((PropertyPath.parse text).mapError .malformedPath))

/-- A test of a described property, with every failure as `false`. -/
def describes (accessor : Accessor) (root : BeanRef) (path : String)
    (test : PropertyDescriptor → Bool) : StateM World Bool := do
  match ← (parsePath path >>= accessor.describe root).run with
  | .ok descriptor => pure (test descriptor)
  | .error _ => pure false

/-- The path leads to a property that can be read. -/
def isReadable (accessor : Accessor) (root : BeanRef) (path : String) : StateM World Bool :=
  accessor.describes root path (·.isReadable)

/-- The path leads to a property that can be written. -/
def isWritable (accessor : Accessor) (root : BeanRef) (path : String) : StateM World Bool :=
  accessor.describes root path (·.isWritable)

end Accessor

end PropertyGraph
